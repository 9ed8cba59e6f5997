import Durable.Proofs.Fan.Folding

/-! A fan of children sends each child once, within its concurrency, and comes to one verdict. -/

namespace Durable

namespace ChildFan

variable {fan : ChildFan} {outcome : Nat → Completion} {runs : ChildRuns} {horizon : Nat}
  {state : ChildFanState} {index wave : Nat} {found : Nat → Option (Option Value)} {rows : FanRows}
  {later : ChildRuns} {write : FanWrite} {stages : List (List FanWrite)} {view : FanView}
  {compacts : Bool} {row : Option StepCheckpoint} {value : Value} {farther : Nat}

theorem Shown.settled {row : StepCheckpoint} (shown : Shown fan outcome runs horizon index row)
    (settled : isSettled (some row) = true) :
    Ended outcome runs index ∧ Tells (outcome index) row.output := by
  cases shown with
  | pending status sent =>
    simp only [isSettled, status] at settled
    cases settled
  | told status ended tells => exact ⟨ended, tells⟩

theorem guardRows_shown (told : Told outcome runs found)
    (shown : ∀ row, rows index = some row → Shown fan outcome runs horizon index row)
    (row : StepCheckpoint) (after : fan.guardRows rows found index = some row) :
    Shown fan outcome runs horizon index row := by
  unfold guardRows at after
  cases before : rows index with
  | none =>
    rw [before] at after
    cases after
  | some checkpoint =>
    rw [before] at after
    dsimp only at after
    split at after
    · exact Option.some.inj after ▸ shown checkpoint before
    · cases payload : found index with
      | none =>
        rw [payload] at after
        exact Option.some.inj after ▸ shown checkpoint before
      | some payload' =>
        rw [payload] at after
        obtain ⟨ended, tells⟩ := told index payload' payload
        exact Option.some.inj after ▸ .told rfl ended tells

def waveSettled (fan : ChildFan) (rows : FanRows) (wave : Nat) : Bool :=
  (fan.waveItems wave).all fun index => isSettled (rows index)

def waveSent (fan : ChildFan) (rows : FanRows) (wave : Nat) : Bool :=
  (fan.waveItems wave).any fun index => (rows index).isSome

/-- What going through the first waves of a fan has found to wait on. -/
structure Picked (fan : ChildFan) (rows : FanRows) (horizon count : Nat) (active : List Nat) :
    Prop where
  within : ∀ wave ∈ active, wave < count
  waits : ∀ wave ∈ active, fan.waveSettled rows wave = false
  passed : active.length < fan.maxWaves → ∀ wave < count, wave ∈ active ∨ fan.waveSettled rows wave
  reach : (∀ wave ∈ active, wave < horizon) ∨
    ∃ farther, horizon ≤ farther ∧ farther ≤ count ∧ (∀ wave ∈ active, wave < farther) ∧
      active.length ≤ fan.maxWaves ∧
      ∀ wave < farther, wave ∈ active ∨ fan.waveSettled rows wave

/-- Going through one more wave. -/
theorem Picked.next {count : Nat} {active : List Nat}
    (picked : Picked fan rows horizon count active)
    (unsent : horizon ≤ count → fan.waveSent rows count = false) :
    Picked fan rows horizon (count + 1)
      (if fan.waveSettled rows count then active
       else if fan.waveSent rows count || active.length < fan.maxWaves then active ++ [count]
       else active) := by
  have within := picked.within
  by_cases settled : fan.waveSettled rows count = true
  · -- A settled wave is passed.
    rw [if_pos settled]
    refine ⟨fun wave member => by have := within wave member; omega, picked.waits, ?_, ?_⟩
    · intro room wave below
      rcases Nat.lt_succ_iff_lt_or_eq.mp below with earlier | here
      · exact picked.passed room wave earlier
      · exact .inr (here ▸ settled)
    · rcases picked.reach with near | ⟨farther, more, less, far, room, all⟩
      · exact .inl near
      · exact .inr ⟨farther, more, by omega, far, room, all⟩
  · rw [if_neg settled]
    by_cases picks : (fan.waveSent rows count || decide (active.length < fan.maxWaves)) = true
    · rw [if_pos picks]
      refine ⟨?_, ?_, ?_, ?_⟩
      · intro wave member
        rcases List.mem_append.mp member with earlier | here
        · have := within wave earlier
          omega
        · have := List.mem_singleton.mp here
          omega
      · intro wave member
        rcases List.mem_append.mp member with earlier | here
        · exact picked.waits wave earlier
        · rw [List.mem_singleton.mp here]
          simpa using settled
      · intro room wave below
        rw [List.length_append, List.length_singleton] at room
        rcases Nat.lt_succ_iff_lt_or_eq.mp below with earlier | here
        · rcases picked.passed (by omega) wave earlier with held | done
          · exact .inl (List.mem_append_left _ held)
          · exact .inr done
        · exact .inl (List.mem_append_right _ (List.mem_singleton.mpr here))
      · by_cases near : count < horizon
        · -- Below the horizon every wave picked so far is.
          left
          intro wave member
          rcases List.mem_append.mp member with earlier | here
          · have := within wave earlier
            omega
          · have := List.mem_singleton.mp here
            omega
        · -- A new wave is picked only while there is room, and then no other was passed.
          have fresh := unsent (by omega)
          have room : active.length < fan.maxWaves := by simpa [fresh] using picks
          right
          refine ⟨count + 1, by omega, by omega, ?_, ?_, ?_⟩
          · intro wave member
            rcases List.mem_append.mp member with earlier | here
            · have := within wave earlier
              omega
            · have := List.mem_singleton.mp here
              omega
          · rw [List.length_append, List.length_singleton]
            omega
          · intro wave below
            rcases Nat.lt_succ_iff_lt_or_eq.mp below with earlier | here
            · rcases picked.passed room wave earlier with held | done
              · exact .inl (List.mem_append_left _ held)
              · exact .inr done
            · exact .inl (List.mem_append_right _ (List.mem_singleton.mpr here))
    · -- A wave there is no room for is left for a later turn.
      rw [if_neg picks]
      simp only [Bool.or_eq_true, decide_eq_true_eq, not_or, Nat.not_lt] at picks
      refine ⟨fun wave member => by have := within wave member; omega, picked.waits, ?_, ?_⟩
      · intro room
        omega
      · rcases picked.reach with near | ⟨farther, more, less, far, room, all⟩
        · exact .inl near
        · exact .inr ⟨farther, more, by omega, far, room, all⟩

theorem activeWaves_picked
    (unsent : ∀ wave < fan.waveCount, horizon ≤ wave → fan.waveSent rows wave = false) :
    Picked fan rows horizon fan.waveCount (fan.activeWaves rows) := by
  have pick : ∀ count ≤ fan.waveCount, Picked fan rows horizon count
      ((List.range count).foldl (fun active wave =>
        if fan.waveSettled rows wave then active
        else if fan.waveSent rows wave || active.length < fan.maxWaves then active ++ [wave]
        else active) []) := by
    intro count counted
    induction count with
    | zero => exact ⟨by simp, by simp, fun _ wave below => absurd below (by omega), .inl (by simp)⟩
    | succ count ih =>
      rw [List.range_succ, List.foldl_append, List.foldl_cons, List.foldl_nil]
      exact (ih (by omega)).next (unsent count (by omega))
  exact pick fan.waveCount (Nat.le_refl _)

def hasEnded (runs : ChildRuns) (index : Nat) : Bool :=
  match runs index with
  | some (some _) => true
  | _ => false

theorem Ended.hasEnded (ended : Ended outcome runs index) : hasEnded runs index = true := by
  have same : runs index = some (some (outcome index)) := ended
  simp [ChildFan.hasEnded, same]

def isOpenWave (fan : ChildFan) (runs : ChildRuns) (wave : Nat) : Bool :=
  (fan.waveItems wave).any fun index => !hasEnded runs index

/-- What an operation that is still to be made relies on. -/
inductive Valid (fan : ChildFan) (outcome : Nat → Completion) (runs : ChildRuns)
    (horizon : Nat) : FanWrite → Prop where
  | resolve {index : Nat} {payload : Option Value} (ended : Ended outcome runs index)
      (tells : Tells (outcome index) payload) : Valid fan outcome runs horizon (.resolve index payload)
  | fold {first : Nat} {rest : List Nat} {row : StepCheckpoint}
      (written : Written fan outcome runs horizon first row) :
      Valid fan outcome runs horizon (.fold (first :: rest) row)
  | register {index : Nat} (within : index < fan.size) (sent : fan.wave index < horizon) :
      Valid fan outcome runs horizon (.register index)
  | start {index : Nat} (within : index < fan.size) (sent : fan.wave index < horizon) :
      Valid fan outcome runs horizon (.start index)

theorem Valid.mono (valid : Valid fan outcome runs horizon write)
    (kept : ∀ index, Ended outcome runs index → Ended outcome later index) :
    Valid fan outcome later horizon write := by
  cases valid with
  | resolve ended tells => exact .resolve (kept _ ended) tells
  | fold written => exact .fold (written.mono (Nat.le_refl _) kept)
  | register within sent => exact .register within sent
  | start within sent => exact .start within sent

/-- What holds of a fan in every state it reaches, with all waves it has sent below a horizon. -/
structure GoodAt (fan : ChildFan) (outcome : Nat → Completion) (state : ChildFanState)
    (horizon : Nat) : Prop where
  stored : ∀ index row, state.stored index = some row →
    Written fan outcome state.runs horizon index row
  replay : ∀ index row, state.replay index = some row →
    Written fan outcome state.runs horizon index row
  live : ∀ index, state.runs index ≠ none → index < fan.size ∧ fan.wave index < horizon
  once : state.started.Nodup
  ids : ∀ id, id ∈ state.started ↔ ∃ index, state.runs index ≠ none ∧ id = fan.id index
  pending : ∀ stage ∈ state.stages, ∀ write ∈ stage,
    Valid fan outcome state.runs horizon write
  room : ((List.range horizon).filter (isOpenWave fan state.runs)).length ≤ fan.maxWaves

theorem GoodAt.initial : GoodAt fan outcome {} 0 where
  stored _ _ found := by cases found
  replay _ _ found := by cases found
  live _ some_ := absurd rfl some_
  once := List.nodup_nil
  ids id := by simp
  pending _ member := by cases member
  room := by simp

theorem GoodAt.staged (good : GoodAt fan outcome state horizon)
    (valid : ∀ stage ∈ stages, ∀ write ∈ stage, Valid fan outcome state.runs horizon write) :
    GoodAt fan outcome { state with stages } horizon :=
  { stored := good.stored, replay := good.replay, live := good.live, once := good.once
    ids := good.ids, pending := valid, room := good.room }

theorem isOpenWave_mono (kept : ∀ index, hasEnded runs index = true → hasEnded later index = true)
    (still : isOpenWave fan later wave = true) : isOpenWave fan runs wave = true := by
  simp only [isOpenWave, List.any_eq_true, Bool.not_eq_true'] at still ⊢
  obtain ⟨index, member, live⟩ := still
  refine ⟨index, member, ?_⟩
  cases done : hasEnded runs index with
  | false => rfl
  | true =>
    rw [kept index done] at live
    cases live

theorem GoodAt.rewritten (good : GoodAt fan outcome state horizon) {stored : FanRows}
    (true_ : ∀ index row, stored index = some row → state.stored index = some row ∨
      Written fan outcome state.runs horizon index row) :
    GoodAt fan outcome { state with stored } horizon :=
  { stored := fun index row found => (true_ index row found).elim (good.stored index row) fun written => written
    replay := good.replay, live := good.live, once := good.once, ids := good.ids
    pending := good.pending, room := good.room }

theorem GoodAt.moved (good : GoodAt fan outcome state horizon) {started : List String}
    (kept : ∀ index, Ended outcome state.runs index → Ended outcome later index)
    (ended : ∀ index, hasEnded state.runs index = true → hasEnded later index = true)
    (live : ∀ index, later index ≠ none → index < fan.size ∧ fan.wave index < horizon)
    (once : started.Nodup)
    (ids : ∀ id, id ∈ started ↔ ∃ index, later index ≠ none ∧ id = fan.id index) :
    GoodAt fan outcome { state with runs := later, started } horizon where
  stored index row found := (good.stored index row found).mono (Nat.le_refl _) kept
  replay index row found := (good.replay index row found).mono (Nat.le_refl _) kept
  live := live
  once := once
  ids := ids
  pending stage member write written := (good.pending stage member write written).mono kept
  room := by
    have fewer : ((List.range horizon).filter (isOpenWave fan later)).length ≤
        ((List.range horizon).filter (isOpenWave fan state.runs)).length := by
      rw [← List.countP_eq_length_filter, ← List.countP_eq_length_filter]
      exact List.countP_mono_left fun wave _ => isOpenWave_mono ended
    exact Nat.le_trans fewer good.room

/-- An operation that relies on what holds keeps it. -/
theorem GoodAt.perform (good : GoodAt fan outcome state horizon)
    (valid : Valid fan outcome state.runs horizon write) :
    GoodAt fan outcome (state.perform fan write) horizon := by
  cases valid with
  | @resolve index payload ended tells =>
    apply good.rewritten
    intro other row found
    split at found
    · rename_i here
      subst here
      exact .inr (Option.some.inj found ▸ .resolved ended tells)
    · exact .inl found
  | @fold first rest row written =>
    apply good.rewritten
    intro other row' found
    split at found
    · -- The first child's position takes the fold.
      rename_i here
      simp only [List.head?_cons, Option.some.injEq] at here
      subst here
      exact .inr (Option.some.inj found ▸ written)
    · split at found
      · cases found
      · exact .inl found
  | @register index within sent =>
    apply good.rewritten
    intro other row found
    split at found
    · rename_i here
      subst here
      exact .inr (Option.some.inj found ▸ .placeholder sent)
    · exact .inl found
  | @start index within sent =>
    simp only [ChildFanState.perform]
    cases there : state.runs index with
    | some run => exact good
    | none =>
      -- The child has no run yet, so its id is new.
      dsimp only
      have fresh : fan.id index ∉ state.started := by
        intro member
        obtain ⟨other, live, same⟩ := (good.ids _).mp member
        rw [← id_injective fan same] at live
        exact live there
      apply good.moved
      · intro other ended
        have same : state.runs other = some (some (outcome other)) := ended
        have different : other ≠ index := by
          rintro rfl
          rw [there] at same
          cases same
        simp only [Ended, different, if_false]
        exact same
      · intro other ended
        have different : other ≠ index := by
          rintro rfl
          simp [hasEnded, there] at ended
        simpa [hasEnded, different] using ended
      · intro other live
        by_cases here : other = index
        · subst here
          exact ⟨within, sent⟩
        · simp only [here, if_false] at live
          exact good.live other live
      · exact List.nodup_append.mpr ⟨good.once, by simp, by
          intro id member other single same
          rw [List.mem_singleton] at single
          exact fresh (single ▸ same ▸ member)⟩
      · intro id
        rw [List.mem_append, List.mem_singleton, good.ids]
        constructor
        · rintro (⟨other, live, same⟩ | same)
          · refine ⟨other, ?_, same⟩
            split
            · simp
            · exact live
          · exact ⟨index, by simp, same⟩
        · rintro ⟨other, live, same⟩
          by_cases here : other = index
          · exact .inr (here ▸ same)
          · simp only [here, if_false] at live
            exact .inl ⟨other, live, same⟩

def Defined (fan : ChildFan) (outcome : Nat → Completion) : Prop :=
  ∀ index, index < fan.size → ∀ value, outcome index = .ok value → value ≠ none

theorem okValue_shown (defined : Defined fan outcome) (within : index < fan.size)
    (shown : ∀ row', row = some row' → Shown fan outcome runs horizon index row')
    (okay : okValue row = some value) :
    Ended outcome runs index ∧ outcome index = .ok (some value) := by
  cases row with
  | none => cases okay
  | some row =>
    simp only [okValue] at okay
    split at okay
    · rename_i succeeded
      obtain ⟨status, flag⟩ := succeeded
      cases shown row rfl with
      | pending running sent =>
        rw [running] at status
        cases status
      | told _ ended tells =>
        refine ⟨ended, ?_⟩
        rcases tells with delivered | ⟨error, code, details, -, derived⟩
        · rw [delivered] at okay flag
          cases result : outcome index with
          | ok output =>
            cases output with
            | none => exact absurd rfl (defined index within none result)
            | some output =>
              rw [result] at okay
              have same : some output = some value := okay
              rw [same]
          | failed error code details =>
            rw [result] at flag
            cases code <;> cases details <;> cases flag
        · rw [derived] at flag
          cases flag
    · cases okay

theorem foldValues_get {items : List Nat} {values : List Value}
    (all : foldValues rows items = some values) {offset : Nat}
    (at_ : values[offset]? = some value) :
    ∃ item, items[offset]? = some item ∧ okValue (rows item) = some value := by
  induction items generalizing values offset with
  | nil =>
    simp only [foldValues, Option.some.injEq] at all
    subst all
    cases at_
  | cons first rest ih =>
    simp only [foldValues] at all
    cases here : okValue (rows first) with
    | none =>
      rw [here] at all
      cases all
    | some first' =>
      cases others : foldValues rows rest with
      | none =>
        rw [here, others] at all
        cases all
      | some rest' =>
        rw [here, others, Option.some.injEq] at all
        subst all
        cases offset with
        | zero =>
          have same : first' = value := by simpa using at_
          exact ⟨first, rfl, same ▸ here⟩
        | succ offset => exact ih others (by simpa using at_)

theorem lt_of_mem_waveItems (member : index ∈ fan.waveItems wave) : index < fan.size :=
  List.mem_range.mp (List.mem_filter.mp member).1

/-- The fold a turn makes of a wave tells the truth. -/
theorem foldWave_valid (sized : fan.Sized) (defined : Defined fan outcome)
    (shown : ∀ index < fan.size, ∀ row, rows index = some row →
      Shown fan outcome runs horizon index row) (folds : fan.foldWave view rows wave = some write) :
    Valid fan outcome runs horizon write := by
  obtain ⟨start, count, consecutive⟩ := fan.waveItems_consecutive sized wave
  have inside : ∀ index ∈ fan.waveItems wave, index < fan.size := fun index member =>
    lt_of_mem_waveItems member
  unfold foldWave at folds
  cases items : fan.waveItems wave with
  | nil =>
    rw [items] at folds
    cases folds
  | cons first rest =>
    rw [items] at folds consecutive inside
    dsimp only at folds
    split at folds
    · cases folds
    · cases all : foldValues rows (first :: rest) with
      | none =>
        rw [all] at folds
        cases folds
      | some values =>
        rw [all, Option.some.injEq] at folds
        subst folds
        have truth : ∀ offset value, values[offset]? = some value →
            Ended outcome runs (first + offset) ∧ outcome (first + offset) = .ok (some value) := by
          intro offset value at_
          obtain ⟨item, place, okay⟩ := foldValues_get all at_
          have member : item ∈ first :: rest := List.mem_of_getElem? place
          -- The child at an offset is the first one's, counted on.
          have counted : item = first + offset := by
            have opening : (first :: rest)[0]? = some first := rfl
            rw [consecutive, List.getElem?_eq_some_iff] at place opening
            obtain ⟨_, place⟩ := place
            obtain ⟨_, opening⟩ := opening
            rw [List.getElem_range'] at place opening
            omega
          rw [← counted]
          exact okValue_shown defined (inside item member) (shown item (inside item member)) okay
        apply Valid.fold
        cases values with
        | nil =>
          -- A wave has a first child, so its fold has a first value.
          simp only [foldValues] at all
          split at all <;> cases all
        | cons value values => exact .folded truth

theorem Shown.sent (good : GoodAt fan outcome state horizon) {row : StepCheckpoint}
    (shown : Shown fan outcome state.runs horizon index row) : fan.wave index < horizon := by
  cases shown with
  | pending status sent => exact sent
  | told status ended tells =>
    refine (good.live index ?_).2
    have same : state.runs index = some (some (outcome index)) := ended
    simp [same]

/-- Every operation of a turn relies on what holds, up to the waves that the turn sends. -/
theorem turnStages_valid (sized : fan.Sized) (defined : Defined fan outcome)
    (good : GoodAt fan outcome state horizon) (more : horizon ≤ farther)
    (told : Told outcome state.runs found)
    (shown : ∀ index < fan.size, ∀ row, view.rows index = some row →
      Shown fan outcome state.runs horizon index row)
    (sends : ∀ wave ∈ fan.activeWaves (fan.guardRows view.rows found),
      wave < fan.waveCount ∧ wave < farther) (compacts : Bool) (hasRun : Nat → Bool) :
    ∀ stage ∈ fan.turnStages compacts view found hasRun, ∀ write ∈ stage,
      Valid fan outcome state.runs farther write := by
  have waits : ∀ index ∈ (List.range fan.size).filter
      (fun index => isPending (view.rows index)), index < fan.size ∧ fan.wave index < farther := by
    intro index member
    rw [List.mem_filter, List.mem_range] at member
    cases row : view.rows index with
    | none =>
      rw [row] at member
      cases member.2
    | some row' =>
      have sent := (shown index member.1 row' row).sent good
      exact ⟨member.1, by omega⟩
  have resolves : ∀ write ∈ ((List.range fan.size).filter
      (fun index => isPending (view.rows index))).filterMap
        (fun index => (found index).map (FanWrite.resolve index)),
      Valid fan outcome state.runs farther write := by
    intro write member
    obtain ⟨index, -, made⟩ := List.mem_filterMap.mp member
    obtain ⟨payload, payload', rfl⟩ := Option.map_eq_some_iff.mp made
    exact .resolve (told index payload payload').1 (told index payload payload').2
  have restarts : ∀ write ∈ (((List.range fan.size).filter
      (fun index => isPending (view.rows index))).filter
        (fun index => (found index).isNone && !hasRun index)).map FanWrite.start,
      Valid fan outcome state.runs farther write := by
    intro write written
    obtain ⟨index, member, rfl⟩ := List.mem_map.mp written
    obtain ⟨within, sent⟩ := waits index (List.mem_filter.mp member).1
    exact .start within sent
  have folds : ∀ write ∈ (List.range fan.waveCount).filterMap
      (fan.foldWave view (fan.guardRows view.rows found)),
      Valid fan outcome state.runs farther write := by
    intro write member
    obtain ⟨wave, -, made⟩ := List.mem_filterMap.mp member
    refine foldWave_valid sized defined (fun index within row found => ?_) made
    have seen := guardRows_shown told (shown index within) row found
    cases seen with
    | pending status sent => exact .pending status (by omega)
    | told status ended tells => exact .told status ended tells
  have unsent : ∀ index ∈ ((fan.activeWaves (fan.guardRows view.rows found)).flatMap
      fan.waveItems).filter (fun index => (fan.guardRows view.rows found index).isNone),
      index < fan.size ∧ fan.wave index < farther := by
    intro index member
    obtain ⟨wave, active, item⟩ := List.mem_flatMap.mp (List.mem_filter.mp member).1
    obtain ⟨within, same⟩ := fan.wave_of_mem (sends wave active).1 item
    exact ⟨within, same ▸ (sends wave active).2⟩
  intro stage member write written
  unfold turnStages at member
  dsimp only at member
  split at member
  · -- A turn that throws only settles and starts what it found.
    rcases List.mem_cons.mp member with rfl | member
    · exact resolves write written
    · rw [List.mem_singleton] at member
      subst member
      exact restarts write written
  · simp only [List.mem_cons, List.not_mem_nil, or_false] at member
    rcases member with rfl | rfl | rfl | rfl
    · exact resolves write written
    · split at written
      · exact folds write written
      · cases written
    · obtain ⟨index, member, rfl⟩ := List.mem_map.mp written
      exact .register (unsent index member).1 (unsent index member).2
    · rcases List.mem_append.mp written with again | first
      · exact restarts write again
      · obtain ⟨index, member, rfl⟩ := List.mem_map.mp first
        exact .start (unsent index member).1 (unsent index member).2

theorem GoodAt.extended (good : GoodAt fan outcome state horizon) (more : horizon ≤ farther)
    (room : ((List.range farther).filter (isOpenWave fan state.runs)).length ≤ fan.maxWaves)
    (valid : ∀ stage ∈ stages, ∀ write ∈ stage, Valid fan outcome state.runs farther write) :
    GoodAt fan outcome { state with stages } farther where
  stored index row found := (good.stored index row found).mono more fun _ ended => ended
  replay index row found := (good.replay index row found).mono more fun _ ended => ended
  live index some_ := ⟨(good.live index some_).1, by have := (good.live index some_).2; omega⟩
  once := good.once
  ids := good.ids
  pending := valid
  room := room

theorem waveSettled_closed (shown : ∀ index < fan.size, ∀ row, rows index = some row →
      Shown fan outcome runs horizon index row) (settled : fan.waveSettled rows wave = true) :
    isOpenWave fan runs wave = false := by
  simp only [isOpenWave, List.any_eq_false, Bool.not_eq_true', Bool.not_eq_false]
  intro index member
  have done := List.all_eq_true.mp settled index member
  cases row : rows index with
  | none =>
    rw [row] at done
    cases done
  | some row' =>
    rw [row] at done
    exact ((shown index (lt_of_mem_waveItems member) row' row).settled done).1.hasEnded

theorem GoodAt.reads (good : GoodAt fan outcome state horizon)
    (read : fan.readFan state.replay state.stored = .ok view) :
    ∀ index < fan.size, ∀ row, view.rows index = some row →
      Shown fan outcome state.runs horizon index row := by
  obtain ⟨view', again, shown⟩ := readFan_sound good.replay good.stored
  rw [read] at again
  cases again
  exact shown

theorem GoodAt.picked (good : GoodAt fan outcome state horizon)
    (told : Told outcome state.runs found)
    (read : fan.readFan state.replay state.stored = .ok view) :
    Picked fan (fan.guardRows view.rows found) horizon fan.waveCount
      (fan.activeWaves (fan.guardRows view.rows found)) := by
  apply activeWaves_picked
  intro wave counted beyond
  -- A child with a checkpoint is in a wave below the horizon.
  simp only [waveSent, List.any_eq_false, Bool.not_eq_true, Option.isSome_eq_false_iff,
    Option.isNone_iff_eq_none]
  intro index member
  obtain ⟨within, same⟩ := fan.wave_of_mem counted member
  cases row : fan.guardRows view.rows found index with
  | none => rfl
  | some row' =>
    have sent := (guardRows_shown told (good.reads read index within) row' row).sent good
    omega

theorem GoodAt.turn (sized : fan.Sized) (defined : Defined fan outcome)
    (good : GoodAt fan outcome state horizon) (compacts : Bool)
    (read : fan.readFan state.replay state.stored = .ok view)
    (told : Told outcome state.runs found) : ∃ farther, GoodAt fan outcome { state with
      stages := fan.turnStages compacts view found fun index => (state.runs index).isSome }
      farther := by
  have picked := good.picked told read
  have shown := good.reads read
  rcases picked.reach with near | ⟨farther, more, -, far, fits, all⟩
  · -- The turn sends no wave that had not been sent.
    exact ⟨horizon, good.extended (Nat.le_refl _) good.room
      (turnStages_valid sized defined good (Nat.le_refl _) told shown
        (fun wave active => ⟨picked.within wave active, near wave active⟩) compacts _)⟩
  · refine ⟨farther, good.extended more ?_ (turnStages_valid sized defined good more told shown
        (fun wave active => ⟨picked.within wave active, far wave active⟩) compacts _)⟩
    -- Every open wave is among those the turn waits on.
    have among : ∀ wave ∈ (List.range farther).filter (isOpenWave fan state.runs),
        wave ∈ fan.activeWaves (fan.guardRows view.rows found) := by
      intro wave member
      obtain ⟨below, still⟩ := List.mem_filter.mp member
      rcases all wave (List.mem_range.mp below) with held | settled
      · exact held
      · have closed := waveSettled_closed (fun index within row after =>
          guardRows_shown told (shown index within) row after) settled
        rw [still] at closed
        cases closed
    have apart : ((List.range farther).filter (isOpenWave fan state.runs)).Nodup :=
      List.nodup_range.filter _
    exact Nat.le_trans (List.subperm_of_subset apart among).length_le fits

theorem perform_kept (fan : ChildFan) (write : FanWrite) (ended : Ended outcome state.runs index) :
    Ended outcome (state.perform fan write).runs index := by
  have same : state.runs index = some (some (outcome index)) := ended
  cases write with
  | resolve other payload => exact ended
  | fold items row => exact ended
  | register other => exact ended
  | start other =>
    simp only [ChildFanState.perform]
    cases there : state.runs other with
    | some run => exact ended
    | none =>
      have different : index ≠ other := by
        rintro rfl
        rw [there] at same
        cases same
      simpa [Ended, different] using same

/-- Every move keeps what holds, perhaps with a farther horizon. -/
theorem GoodAt.step (sized : fan.Sized) (defined : Defined fan outcome) {next : ChildFanState}
    (good : GoodAt fan outcome state horizon) (step : fan.Step compacts outcome state next) :
    ∃ farther, GoodAt fan outcome next farther := by
  cases step with
  | snapshot free =>
    exact ⟨horizon, { stored := good.stored, replay := good.stored, live := good.live
                      once := good.once, ids := good.ids, pending := good.pending
                      room := good.room }⟩
  | turn found free read told => exact good.turn sized defined compacts read told
  | @write before after write later queued =>
    have valid : ∀ stage ∈ (before ++ write :: after) :: later, ∀ write' ∈ stage,
        Valid fan outcome state.runs horizon write' := by
      rw [← queued]
      exact good.pending
    have done := good.perform (valid _ List.mem_cons_self write (by simp))
    refine ⟨horizon, done.staged fun stage member write' written => ?_⟩
    have kept : Valid fan outcome state.runs horizon write' := by
      rcases List.mem_cons.mp member with here | there
      · subst here
        refine valid _ List.mem_cons_self write' ?_
        rcases List.mem_append.mp written with earlier | others
        · exact List.mem_append_left _ earlier
        · exact List.mem_append_right _ (List.mem_cons_of_mem _ others)
      · exact valid stage (List.mem_cons_of_mem _ there) write' written
    exact kept.mono fun index ended => perform_kept fan write ended
  | @goOn later done =>
    refine ⟨horizon, good.staged fun stage member => good.pending stage ?_⟩
    rw [done]
    exact List.mem_cons_of_mem _ member
  | crash => exact ⟨horizon, good.staged fun stage member => by cases member⟩
  | @ends index live =>
    refine ⟨horizon, good.moved ?_ ?_ ?_ good.once ?_⟩
    · intro other ended
      by_cases here : other = index
      · subst here
        simp [Ended]
      · simpa [Ended, here] using ended
    · intro other ended
      by_cases here : other = index
      · subst here
        simp [hasEnded]
      · simpa [hasEnded, here] using ended
    · intro other some_
      by_cases here : other = index
      · subst here
        exact good.live other (by simp [live])
      · simp only [here, if_false] at some_
        exact good.live other some_
    · -- The runs there are stay the same.
      intro id
      rw [good.ids]
      have same : ∀ other, (state.runs other ≠ none) ↔
          (if other = index then some (some (outcome index)) else state.runs other) ≠ none := by
        intro other
        by_cases here : other = index
        · subst here
          simp [live]
        · simp [here]
      simp only [same]
  | @deliver index ended =>
    exact ⟨horizon, good.perform (.resolve ended (.inl rfl))⟩

theorem good_of_reachable (sized : fan.Sized) (defined : Defined fan outcome)
    (reached : fan.Reachable compacts outcome state) :
    ∃ horizon, GoodAt fan outcome state horizon := by
  induction reached with
  | refl => exact ⟨0, .initial⟩
  | tail _ step ih =>
    obtain ⟨horizon, good⟩ := ih
    exact good.step sized defined step

theorem countP_quotient_le (width quotient bound : Nat) (positive : 0 < width) :
    (List.range bound).countP (fun number => number / width == quotient) ≤ width := by
  rw [List.countP_eq_length_filter, filter_quotient _ _ _ positive, List.length_range']
  exact Nat.min_le_left _ _

theorem countP_waves_le {waves : Waves} (bound : fan.waves = some waves)
    (positive : 0 < waves.waveSize) (some_ : List Nat) :
    (List.range fan.size).countP (fun index => decide (fan.wave index ∈ some_)) ≤
      some_.length * waves.waveSize := by
  induction some_ with
  | nil => simp
  | cons wave rest ih =>
    have split : (List.range fan.size).countP
        (fun index => decide (fan.wave index ∈ wave :: rest)) ≤
        (List.range fan.size).countP (fun index => index / waves.waveSize == wave) +
          (List.range fan.size).countP (fun index => decide (fan.wave index ∈ rest)) := by
      generalize List.range fan.size = indexes
      induction indexes with
      | nil => simp
      | cons index indexes more =>
        have quotient : fan.wave index = index / waves.waveSize := by
          simp [ChildFan.wave, waveOf, bound]
        simp only [List.mem_cons] at more
        simp only [List.countP_cons, List.mem_cons, decide_eq_true_eq, quotient, beq_iff_eq]
        by_cases here : index / waves.waveSize = wave
        · simp only [here, true_or, if_true]
          omega
        · simp only [here, false_or, if_false]
          omega
    have one := countP_quotient_le waves.waveSize wave fan.size positive
    rw [List.length_cons, Nat.add_mul]
    omega

theorem GoodAt.unsettled (good : GoodAt fan outcome state horizon) (within : index < fan.size)
    (open_ : isUnsettled state index = true) :
    fan.wave index ∈ (List.range horizon).filter (isOpenWave fan state.runs) := by
  have live : hasEnded state.runs index = false := by
    unfold isUnsettled at open_
    unfold hasEnded
    cases run : state.runs index with
    | none => rfl
    | some run' =>
      cases run' with
      | none => rfl
      | some completion =>
        rw [run] at open_
        cases open_
  have sent : fan.wave index < horizon := by
    cases run : state.runs index with
    | some run' => exact (good.live index (by simp [run])).2
    | none =>
      -- A child without a run is unsettled only by its placeholder.
      simp only [isUnsettled, run] at open_
      cases row : state.stored index with
      | none =>
        rw [row] at open_
        cases open_
      | some row' =>
        cases good.stored index row' row with
        | placeholder sent => exact sent
        | resolved ended tells => rw [ended.hasEnded] at live; cases live
        | folded truth =>
          have first := (truth 0 _ rfl).1
          rw [Nat.add_zero] at first
          rw [first.hasEnded] at live
          cases live
  rw [List.mem_filter, List.mem_range]
  refine ⟨sent, List.any_eq_true.mpr ⟨index, fan.mem_waveItems within, ?_⟩⟩
  rw [live]
  rfl

theorem sized_of_allWaves {size : Nat} {concurrency : Option Nat}
    (allowed : allWaves size concurrency = .ok fan.waves) : fan.Sized := by
  intro waves bound
  rw [bound] at allowed
  cases concurrency with
  | none => cases allowed
  | some limit =>
    simp only [allWaves] at allowed
    split at allowed
    · cases allowed
    · split at allowed
      · cases allowed
      · split at allowed
        · cases allowed
          exact ⟨by decide, by decide⟩
        · cases allowed
          exact ⟨by dsimp only; omega, by dsimp only; omega⟩

/-- No more children are unsettled than the concurrency limit allows. -/
theorem GoodAt.bounded (good : GoodAt fan outcome state horizon) {limit : Nat}
    (allowed : allWaves fan.size (some limit) = .ok fan.waves) :
    fan.unsettled state ≤ limit := by
  have sized := sized_of_allWaves allowed
  have room := good.room
  cases bound : fan.waves with
  | none =>
    -- The limit does not bind: the fan has no more children than it allows.
    have few : fan.size ≤ limit := by
      rw [bound] at allowed
      simp only [allWaves] at allowed
      split at allowed
      · cases allowed
      · split at allowed
        · assumption
        · split at allowed <;> cases allowed
    have counted := List.countP_le_length (p := isUnsettled state) (l := List.range fan.size)
    rw [List.length_range] at counted
    exact Nat.le_trans counted few
  | some waves =>
    have inside : fan.unsettled state ≤ (List.range fan.size).countP (fun index =>
        decide (fan.wave index ∈ (List.range horizon).filter (isOpenWave fan state.runs))) :=
      List.countP_mono_left fun index member open_ =>
        decide_eq_true (good.unsettled (List.mem_range.mp member) open_)
    have held := countP_waves_le bound (sized waves bound).1
      ((List.range horizon).filter (isOpenWave fan state.runs))
    have most : fan.maxWaves = waves.maxWaves := by simp [maxWaves, bound]
    have product : waves.maxWaves * waves.waveSize ≤ limit := by
      rw [bound] at allowed
      simp only [allWaves] at allowed
      split at allowed
      · cases allowed
      · split at allowed
        · cases allowed
        · split at allowed
          · cases allowed
            dsimp only
            omega
          · cases allowed
            dsimp only
            omega
    have scaled := Nat.mul_le_mul_right waves.waveSize (most ▸ room)
    omega

theorem collect_congr (fan other : ChildFan) (size : other.size = fan.size)
    (settle : other.settle = fan.settle) {others : FanRows} (same : ∀ index < fan.size,
      isFailedMember (rows index) = isFailedMember (others index) ∧
        (fan.failureOf index (rows index) "unknown").plainly =
          (other.failureOf index (others index) "unknown").plainly ∧
        ((rows index).bind StepCheckpoint.output).bind (·.field "value") =
          ((others index).bind StepCheckpoint.output).bind (·.field "value")) :
    (fan.collect rows).plainly = (other.collect others).plainly := by
  have failed : (List.range fan.size).filter (fun index => isFailedMember (rows index)) =
      (List.range fan.size).filter fun index => isFailedMember (others index) :=
    List.filter_congr fun index member => (same index (List.mem_range.mp member)).1
  have values : (List.range fan.size).map
      (fun index => ((rows index).bind StepCheckpoint.output).bind (·.field "value")) =
      (List.range fan.size).map
        fun index => ((others index).bind StepCheckpoint.output).bind (·.field "value") :=
    List.map_congr_left fun index member => (same index (List.mem_range.mp member)).2.2
  unfold collect
  rw [size, settle]
  dsimp only
  by_cases settles : fan.settle = true
  · -- Every result is told by its own position.
    rw [if_pos settles, if_pos settles]
    simp only [FanOutcome.plainly, List.map_map, FanOutcome.settled.injEq]
    apply List.map_congr_left
    intro index member
    obtain ⟨flag, failure, value⟩ := same index (List.mem_range.mp member)
    simp only [Function.comp_apply, flag]
    split
    · simp only [Settled.plainly, failure]
    · simp only [Settled.plainly, value]
  · rw [if_neg settles, if_neg settles, failed, values]
    simp only [List.isEmpty_map]
    split
    · rfl
    · simp only [FanOutcome.plainly, List.map_map, FanOutcome.threw.injEq, GatherError.mk.injEq,
        and_true]
      apply List.map_congr_left
      intro index member
      exact (same index (List.mem_range.mp (List.mem_filter.mp member).1)).2.1

theorem collect_plainly
    (told : ∀ index < fan.size, ∃ row, rows index = some row ∧ row.status = .completed ∧
      Tells (outcome index) row.output) : (fan.collect rows).plainly = fan.verdict outcome := by
  unfold verdict
  apply collect_congr fan fan.unbounded rfl rfl
  intro index within
  obtain ⟨row, found, status, tells⟩ := told index within
  obtain ⟨failed, message, value⟩ := tells.same "unknown"
  rw [found]
  refine ⟨?_, ?_, value⟩
  · simp only [isFailedMember, status, failed, resolved]
  · simp only [failureOf, GatherItemFailure.plainly, Option.bind_some, message, resolved]

theorem Shown.failed (shown : ∀ row', row = some row' → Shown fan outcome runs horizon index row')
    (failed : isFailedMember row = true) :
    ∃ error code details, outcome index = .failed error code details ∧
      fan.fastFailureOf index row = { index, id := fan.id index, error } := by
  cases row with
  | none => cases failed
  | some row =>
    have settled := isSettled_of_failed failed
    obtain ⟨ended, tells⟩ := (shown row rfl).settled settled
    obtain ⟨flag, message, -⟩ := tells.same "unknown"
    simp only [isFailedMember, Bool.and_eq_true] at failed
    rw [isFailedCompletion_toValue] at flag
    cases result : outcome index with
    | ok value =>
      rw [result, failed.2] at flag
      cases flag
    | failed error code details =>
      refine ⟨error, code, details, rfl, ?_⟩
      rw [result, completionError_toValue] at message
      simp only [fastFailureOf, Option.bind_some, message]

/-- What a turn that does not suspend comes to, when every child has ended or one has failed. -/
theorem GoodAt.comes (sized : fan.Sized) (good : GoodAt fan outcome state horizon)
    (read : fan.readFan state.replay state.stored = .ok view)
    (told : Told outcome state.runs found)
    (decided : ∀ registered, fan.turn view.rows found ≠ .suspended registered) :
    ((fan.turn view.rows found).plainly = fan.verdict outcome ∧
        ∀ index < fan.size, Ended outcome state.runs index) ∨
      (fan.mode = .failFast ∧ ∃ index error code details cancelled, index < fan.size ∧
        outcome index = .failed error code details ∧ fan.turn view.rows found =
          .threw ⟨[{ index, id := fan.id index, error }], fan.size⟩ cancelled) := by
  have shown := good.reads read
  have picked := good.picked told read
  unfold ChildFan.turn at decided ⊢
  dsimp only at decided ⊢
  split at decided
  · -- A fail-fast fan throws for a child that has failed.
    rename_i index thrown
    right
    split at thrown
    · rename_i fast
      have within := List.mem_range.mp (List.mem_of_find?_eq_some thrown)
      have failed := List.find?_some thrown
      obtain ⟨error, code, details, result, same⟩ := Shown.failed
        (guardRows_shown told (shown index within)) failed
      exact ⟨fast, index, error, code, details, _, within, result, by rw [same]⟩
    · cases thrown
  · left
    by_cases idle : (fan.activeWaves (fan.guardRows view.rows found)).isEmpty = true
    · rw [if_pos idle]
      rw [List.isEmpty_iff] at idle
      have room : 0 < fan.maxWaves := by
        cases bound : fan.waves with
        | none => simp [maxWaves, bound]
        | some waves => simpa [maxWaves, bound] using (sized waves bound).2
      -- With no wave to wait on, every child has a completion.
      have told : ∀ index < fan.size, ∃ row, fan.guardRows view.rows found index = some row ∧
          row.status = .completed ∧ Ended outcome state.runs index ∧
            Tells (outcome index) row.output := by
        intro index within
        have counted := fan.wave_lt sized within
        rcases picked.passed (by rw [idle]; exact room) _ counted with held | settled
        · rw [idle] at held
          cases held
        · have done := List.all_eq_true.mp settled index (fan.mem_waveItems within)
          cases row : fan.guardRows view.rows found index with
          | none =>
            rw [row] at done
            cases done
          | some row' =>
            rw [row] at done
            obtain ⟨ended, tells⟩ :=
              (guardRows_shown told (shown index within) row' row).settled done
            exact ⟨row', rfl, by simpa [isSettled] using done, ended, tells⟩
      constructor
      · apply collect_plainly
        intro index within
        obtain ⟨row, held, status, -, tells⟩ := told index within
        exact ⟨row, held, status, tells⟩
      · intro index within
        obtain ⟨_, -, -, ended, -⟩ := told index within
        exact ended
    · rw [if_neg idle] at decided
      exact absurd rfl (decided _)

theorem suspended_starts {registered : List Nat}
    (suspended : fan.turn view.rows found = .suspended registered) (compacts : Bool)
    (hasRun : Nat → Bool) (member : index ∈ registered) :
    .start index ∈ (fan.turnStages compacts view found hasRun).flatten := by
  unfold ChildFan.turn at suspended
  unfold turnStages
  dsimp only at suspended ⊢
  revert suspended
  cases (if fan.mode = .failFast then fan.firstFailed (fan.guardRows view.rows found)
    else none) with
  | some failed =>
    intro suspended
    cases suspended
  | none =>
    intro suspended
    dsimp only at suspended
    split at suspended
    · unfold collect at suspended
      dsimp only at suspended
      split at suspended
      · cases suspended
      · split at suspended <;> cases suspended
    · cases suspended
      exact List.mem_flatten.mpr ⟨_, List.mem_cons_of_mem _ (List.mem_cons_of_mem _
        (List.mem_cons_of_mem _ List.mem_cons_self)),
        List.mem_append_right _ (List.mem_map_of_mem member)⟩

theorem pending_restarts (compacts : Bool) {hasRun : Nat → Bool} (within : index < fan.size)
    (pending : isPending (view.rows index) = true) (unknown : found index = none)
    (missing : hasRun index = false) :
    .start index ∈ (fan.turnStages compacts view found hasRun).flatten := by
  have again : FanWrite.start index ∈ (((List.range fan.size).filter
      (fun index => isPending (view.rows index))).filter
        (fun index => (found index).isNone && !hasRun index)).map FanWrite.start := by
    apply List.mem_map_of_mem
    simp [within, pending, unknown, missing]
  unfold turnStages
  dsimp only
  split
  · simp only [List.flatten_cons, List.mem_append]
    exact .inr (.inl again)
  · simp only [List.flatten_cons, List.mem_append]
    exact .inr (.inr (.inr (.inl (.inl again))))

/-- A turn that knows of every child that has ended suspends only to wait for one that has not. -/
theorem GoodAt.waits (good : GoodAt fan outcome state horizon)
    (read : fan.readFan state.replay state.stored = .ok view)
    (told : Told outcome state.runs found)
    (known : ∀ index < fan.size, hasEnded state.runs index = true → (found index).isSome = true)
    (suspended : fan.turn view.rows found = .suspended []) :
    ∃ index < fan.size, isPending (view.rows index) = true ∧
      hasEnded state.runs index = false ∧ found index = none := by
  have picked := good.picked told read
  unfold ChildFan.turn at suspended
  dsimp only at suspended
  split at suspended
  · cases suspended
  · split at suspended
    · unfold collect at suspended
      dsimp only at suspended
      split at suspended
      · cases suspended
      · split at suspended <;> cases suspended
    · rename_i busy
      simp only [FanOutcome.suspended.injEq, List.filter_eq_nil_iff, List.mem_flatMap,
        forall_exists_index, and_imp] at suspended
      simp only [List.isEmpty_iff] at busy
      -- Some wave is waited on, and some of its children have no completion.
      obtain ⟨wave, active⟩ := List.exists_mem_of_ne_nil _ busy
      obtain ⟨index, member, unsettled⟩ := List.all_eq_false.mp (picked.waits wave active)
      have sent := suspended index wave active member
      have within := lt_of_mem_waveItems member
      unfold guardRows at sent unsettled
      cases row : view.rows index with
      | none => simp [row] at sent
      | some row' =>
        rw [row] at unsettled
        dsimp only at unsettled
        by_cases settled : isSettled (some row') = true
        · rw [if_pos settled] at unsettled
          exact absurd settled unsettled
        · rw [if_neg settled] at unsettled
          cases payload : found index with
          | some payload' =>
            rw [payload] at unsettled
            exact absurd rfl unsettled
          | none =>
            refine ⟨index, within, by simpa [isPending, row] using settled, ?_, payload⟩
            cases done : hasEnded state.runs index with
            | false => rfl
            | true =>
              have heard := known index within done
              rw [payload] at heard
              cases heard

/-- What a fan of children promises in a state it has reached. -/
structure Invisible (fan : ChildFan) (concurrency : Option Nat) (outcome : Nat → Completion)
    (state : ChildFanState) : Prop where
  /-- Whatever mixture of folds and checkpoints is stored, it can be read. -/
  reads : ∃ view, fan.readFan state.replay state.stored = .ok view
  /-- A turn that does not suspend comes to the verdict, or a fail-fast one throws a failure. -/
  comes : ∀ view found, fan.readFan state.replay state.stored = .ok view →
    Told outcome state.runs found →
    (∀ registered, fan.turn view.rows found ≠ .suspended registered) →
    ((fan.turn view.rows found).plainly = fan.verdict outcome ∧
        ∀ index < fan.size, fan.id index ∈ state.started) ∨
      (fan.mode = .failFast ∧ ∃ index error code details cancelled, index < fan.size ∧
        outcome index = .failed error code details ∧ fan.turn view.rows found =
          .threw ⟨[{ index, id := fan.id index, error }], fan.size⟩ cancelled)
  /-- A turn that suspends starts what it registers, or else a child it waits on is under way. -/
  waits : ∀ view found, fan.readFan state.replay state.stored = .ok view →
    Told outcome state.runs found →
    (∀ index < fan.size, hasEnded state.runs index = true → (found index).isSome = true) →
    ∀ registered, fan.turn view.rows found = .suspended registered → ∀ compacts,
      let writes := (fan.turnStages compacts view found
        fun index => (state.runs index).isSome).flatten
      (∀ index ∈ registered, .start index ∈ writes) ∧
        (registered = [] → ∃ index < fan.size, isPending (view.rows index) = true ∧
          (state.runs index = some none ∨ .start index ∈ writes))
  once : state.started.Nodup
  /-- What is started are the fan's children, each under its own id. -/
  own : ∀ id ∈ state.started, ∃ index < fan.size, id = fan.id index
  bounded : ∀ limit, concurrency = some limit → fan.unsettled state ≤ limit

/-- A whole turn that finds no completion: its snapshot, what it reads, and all it does. -/
def afterTurn (fan : ChildFan) (compacts : Bool) (state : ChildFanState) : ChildFanState :=
  match fan.readFan state.stored state.stored with
  | .error _ => state
  | .ok view =>
    { (fan.turnStages compacts view (fun _ => none)
        fun index => (state.runs index).isSome).flatten.foldl (ChildFanState.perform fan)
        { state with replay := state.stored } with stages := [] }

theorem perform_staged (fan : ChildFan) (state : ChildFanState) (write : FanWrite)
    (stages rest : List (List FanWrite)) :
    { ({ state with stages } : ChildFanState).perform fan write with stages := rest } =
      { state.perform fan write with stages := rest } := by
  cases write with
  | resolve index payload => rfl
  | fold items row => rfl
  | register index => rfl
  | start index =>
    simp only [ChildFanState.perform]
    cases state.runs index <;> rfl

theorem Reachable.performs (reached : fan.Reachable compacts outcome { state with stages }) :
    fan.Reachable compacts outcome
      { stages.flatten.foldl (ChildFanState.perform fan) state with stages := [] } := by
  induction stages generalizing state with
  | nil => exact reached
  | cons stage later ih =>
    rw [List.flatten_cons, List.foldl_append]
    induction stage generalizing state with
    | nil => exact ih (.tail reached (.goOn rfl))
    | cons write rest more =>
      have next : fan.Reachable compacts outcome
          { state.perform fan write with stages := rest :: later } := by
        have moved := reached.tail (Step.write (show (write :: rest) :: later =
          ([] ++ write :: rest) :: later from rfl))
        rw [perform_staged] at moved
        exact moved
      exact more next

theorem Reachable.afterTurn (reached : fan.Reachable compacts outcome state)
    (free : state.stages = []) : fan.Reachable compacts outcome (fan.afterTurn compacts state) := by
  unfold ChildFan.afterTurn
  cases read : fan.readFan state.stored state.stored with
  | error message => exact reached
  | ok view =>
    apply Reachable.performs
    have told : Told outcome state.runs fun _ => none := by
      intro index payload found
      cases found
    exact (reached.tail (.snapshot free)).tail (.turn (fun _ => none) free read told)

/-- Two children, one of them at a time, and the first one fails. -/
def firstOfTwo : ChildFan where
  runId := "p"
  firstSeq := 0
  size := 2
  mode := .failFast
  waves := some ⟨1, 1⟩

def firstFails : Nat → Completion
  | 0 => .failed "boom" none none
  | _ => .ok (some (.num 1))

/-- A turn has sent a fan's first children, and the first of them has ended and been delivered. -/
def firstEnded (fan : ChildFan) : ChildFanState :=
  let sent := fan.afterTurn true {}
  { sent with runs := fun other =>
      if other = 0 then some (some (firstFails 0)) else sent.runs other }.perform fan
    (.resolve 0 (some (firstFails 0).toValue))

theorem firstEnded_reachable (fan : ChildFan) (sends : (fan.afterTurn true {}).runs 0 = some none) :
    fan.Reachable true firstFails (firstEnded fan) := by
  have turned : fan.Reachable true firstFails (fan.afterTurn true {}) :=
    Reachable.afterTurn .refl rfl
  exact (turned.tail (.ends sends)).tail (.deliver (by simp))

end ChildFan

end Durable
