import Mathlib.Data.List.Nodup
import Mathlib.Data.List.Perm.Subperm
import Durable.Ctx.FanFolds
import Durable.Data.Ids
import Durable.Proofs.Fan.FailFast

/-! Folds and waves of a fan of children: what a turn reads back, sends and comes to. -/

namespace Durable

theorem ChildFan.Tells.same {completion : Completion} {payload : Option Value}
    (tells : ChildFan.Tells completion payload) (absent : String) :
    isFailedCompletion payload = isFailedCompletion (some completion.toValue) ∧
      (completionError payload absent).message =
        (completionError (some completion.toValue) absent).message ∧
      payload.bind (·.field "value") = completion.toValue.field "value" := by
  rcases tells with delivered | ⟨error, code, details, failed, derived⟩
  · subst delivered
    exact ⟨rfl, rfl, rfl⟩
  · -- What a row tells of a failure lacks only its code and its details.
    subst failed derived
    rw [isFailedCompletion_toValue, isFailedCompletion_toValue, completionError_toValue,
      completionError_toValue]
    refine ⟨rfl, rfl, ?_⟩
    cases code <;> cases details <;> rfl

theorem filter_quotient (width quotient bound : Nat) (positive : 0 < width) :
    (List.range bound).filter (fun number => number / width == quotient) =
      List.range' (quotient * width) (min width (bound - quotient * width)) := by
  induction bound with
  | zero => simp
  | succ bound ih =>
    rw [List.range_succ, List.filter_append, ih]
    have limits := Nat.div_add_mod bound width
    have small := Nat.mod_lt bound positive
    by_cases here : bound / width = quotient
    · -- The last number is the next one of its quotient.
      have product : quotient * width = width * (bound / width) := by
        rw [here, Nat.mul_comm]
      have before : min width (bound - quotient * width) = bound - quotient * width := by omega
      have after : min width (bound + 1 - quotient * width) = bound - quotient * width + 1 := by
        omega
      have last : quotient * width + (bound - quotient * width) = bound := by omega
      rw [before, after, List.range'_1_concat, last]
      simp [here]
    · have same : min width (bound + 1 - quotient * width) =
          min width (bound - quotient * width) := by
        rcases Nat.lt_or_gt_of_ne here with below | above
        · have more : bound < quotient * width := (Nat.div_lt_iff_lt_mul positive).mp below
          omega
        · have more : (quotient + 1) * width ≤ bound := (Nat.le_div_iff_mul_le positive).mp above
          rw [Nat.add_mul] at more
          omega
      rw [same]
      simp [here]

namespace ChildFan

variable (fan : ChildFan) {index : Nat} {row : StepCheckpoint} {view : FanView}

/-- The waves of a fan hold children, and at least one may be sent. -/
def Sized : Prop :=
  ∀ waves, fan.waves = some waves → 0 < waves.waveSize ∧ 0 < waves.maxWaves

/-- The number of the wave a child is in. -/
def wave (index : Nat) : Nat := (fan.waveOf index).getD 0

/-- How many waves may be unsettled at once. -/
def maxWaves : Nat := (fan.waves.map Waves.maxWaves).getD 1

theorem waveItems_consecutive (sized : fan.Sized) (wave : Nat) :
    ∃ first count, fan.waveItems wave = List.range' first count := by
  cases bound : fan.waves with
  | none => exact ⟨0, fan.size, by simp [waveItems, bound, List.range_eq_range']⟩
  | some waves =>
    refine ⟨wave * waves.waveSize, min waves.waveSize (fan.size - wave * waves.waveSize), ?_⟩
    rw [← filter_quotient _ _ _ (sized waves bound).1]
    simp [waveItems, bound]

theorem mem_waveItems (within : index < fan.size) : index ∈ fan.waveItems (fan.wave index) := by
  cases bound : fan.waves with
  | none => simp [waveItems, bound, within]
  | some waves => simp [waveItems, wave, waveOf, bound, within]

theorem wave_of_mem {wave : Nat} (counted : wave < fan.waveCount)
    (member : index ∈ fan.waveItems wave) : index < fan.size ∧ fan.wave index = wave := by
  cases bound : fan.waves with
  | none =>
    simp only [waveCount, bound] at counted
    simp only [waveItems, bound, List.filter_true, List.mem_range] at member
    refine ⟨member, ?_⟩
    simp only [ChildFan.wave, waveOf, bound, Option.map_none, Option.getD_none]
    omega
  | some waves =>
    simp only [waveItems, bound, List.mem_filter, List.mem_range, beq_iff_eq] at member
    exact ⟨member.1, by simp [ChildFan.wave, waveOf, bound, member.2]⟩

theorem wave_lt (sized : fan.Sized) (within : index < fan.size) :
    fan.wave index < fan.waveCount := by
  cases bound : fan.waves with
  | none => simp [wave, waveOf, waveCount, bound]
  | some waves =>
    have positive := (sized waves bound).1
    simp only [wave, waveOf, waveCount, bound, Option.map_some, Option.getD_some]
    have next : (index + waves.waveSize) / waves.waveSize = index / waves.waveSize + 1 :=
      Nat.add_div_right _ positive
    have grows : (index + waves.waveSize) / waves.waveSize ≤
        (fan.size + waves.waveSize - 1) / waves.waveSize :=
      Nat.div_le_div_right (by omega)
    omega

theorem dotted_injective {left right : String} {first second : Nat}
    (same : left ++ "." ++ toString first = right ++ "." ++ toString second) :
    first = second :=
  (separated_injective "." (show ".".toList = ['.'] by decide) (by decide) same).2

theorem id_injective {left right : Nat} (same : fan.id left = fan.id right) : left = right := by
  cases bound : fan.waves with
  | none =>
    simp only [id, waveOf, bound, Option.map_none, allChildId] at same
    exact dotted_injective same
  | some waves =>
    simp only [id, waveOf, bound, Option.map_some, allChildId] at same
    exact dotted_injective same

/-- A child has ended, as its outcome says. -/
def Ended (outcome : Nat → Completion) (runs : ChildRuns) (index : Nat) : Prop :=
  runs index = some (some (outcome index))

/-- What the checkpoint at a child's position may be, when waves below a horizon are sent. -/
inductive Written (outcome : Nat → Completion) (runs : ChildRuns) (horizon index : Nat) :
    StepCheckpoint → Prop where
  | placeholder (sent : fan.wave index < horizon) :
      Written outcome runs horizon index (fan.placeholder index)
  | resolved {payload : Option Value} (ended : Ended outcome runs index)
      (tells : Tells (outcome index) payload) :
      Written outcome runs horizon index (fan.resolved index payload)
  | folded {wave : Nat} {value : Value} {values : List Value}
      (truth : ∀ offset value', (value :: values)[offset]? = some value' →
        Ended outcome runs (index + offset) ∧ outcome (index + offset) = .ok (some value')) :
      Written outcome runs horizon index (fan.foldRow wave index (value :: values))

/-- What a turn sees at a child's position. -/
inductive Shown (outcome : Nat → Completion) (runs : ChildRuns) (horizon index : Nat)
    (row : StepCheckpoint) : Prop where
  | pending (status : row.status = .running) (sent : fan.wave index < horizon)
  | told (status : row.status = .completed) (ended : Ended outcome runs index)
      (tells : Tells (outcome index) row.output)

variable {fan} {outcome : Nat → Completion} {runs : ChildRuns} {horizon : Nat}

theorem Written.mono {later : ChildRuns} {farther : Nat}
    (written : Written fan outcome runs horizon index row) (more : horizon ≤ farther)
    (kept : ∀ other, Ended outcome runs other → Ended outcome later other) :
    Written fan outcome later farther index row := by
  cases written with
  | placeholder sent => exact .placeholder (by omega)
  | resolved ended tells => exact .resolved (kept _ ended) tells
  | folded truth =>
    apply Written.folded
    intro offset value' at_
    exact ⟨kept _ (truth offset value' at_).1, (truth offset value' at_).2⟩

theorem foldRow_named (wave first : Nat) (values : List Value) :
    isFoldedName (fan.foldRow wave first values).name = true := by
  simp only [isFoldedName, foldRow, allFoldedName, String.toList_append,
    List.isPrefixOf_iff_prefix]
  exact List.prefix_append _ _

theorem Written.shown (written : Written fan outcome runs horizon index row)
    (plain : isFoldedName row.name = false) : Shown fan outcome runs horizon index row := by
  cases written with
  | placeholder sent => exact .pending rfl sent
  | resolved ended tells => exact .told rfl ended tells
  | folded truth =>
    rw [foldRow_named] at plain
    cases plain

theorem foldedChildren_toValue (folded : FoldedChildren) :
    foldedChildren (some folded.toValue) = some folded := by
  rfl

theorem fill_cases (fan : ChildFan) (row : StepCheckpoint) (view : FanView)
    (folded : FoldedChildren) (index : Nat) :
    (∃ offset value, index = folded.first + offset ∧ folded.values[offset]? = some value ∧
        (fan.fill row view folded).rows index = some (fan.unfolded row index value) ∧
        (fan.fill row view folded).folded index = true) ∨
      ((fan.fill row view folded).rows index = view.rows index ∧
        (fan.fill row view folded).folded index = view.folded index) := by
  by_cases within : folded.first ≤ index
  · cases covered : folded.values[index - folded.first]? with
    | some value =>
      left
      exact ⟨index - folded.first, value, by omega, covered, by simp [fill, within, covered],
        by simp [fill, within, covered]⟩
    | none =>
      right
      exact ⟨by simp [fill, within, covered], by simp [fill, covered]⟩
  · right
    exact ⟨by simp [fill, within], by simp [fill, within]⟩

/-- A view in which every position holds what was written there, or what a fold told of it. -/
structure Sound (fan : ChildFan) (outcome : Nat → Completion) (runs : ChildRuns)
    (horizon : Nat) (view : FanView) : Prop where
  written : ∀ index row, view.folded index = false → view.rows index = some row →
    Written fan outcome runs horizon index row
  told : ∀ index, view.folded index = true →
    ∃ row, view.rows index = some row ∧ Shown fan outcome runs horizon index row

/-- The fold at a position, if there is one, has been expanded. -/
def Expanded (view : FanView) (index : Nat) : Prop :=
  ∀ row, view.rows index = some row → isFoldedName row.name = true → view.folded index = true

/-- Expanding one position succeeds, and keeps the view sound. -/
theorem expandAt_sound (sound : Sound fan outcome runs horizon view) (index : Nat) :
    ∃ next, fan.expandAt view index = .ok next ∧ Sound fan outcome runs horizon next ∧
      Expanded next index ∧ ∀ other, Expanded view other → Expanded next other := by
  unfold expandAt
  cases stored : view.rows index with
  | none =>
    refine ⟨view, rfl, sound, ?_, fun other done => done⟩
    intro row found
    rw [stored] at found
    cases found
  | some row =>
    by_cases skipped : (!isFoldedName row.name || view.folded index) = true
    · refine ⟨view, by simp [skipped], sound, ?_, fun other done => done⟩
      intro row' found named
      rw [stored] at found
      cases found
      simpa [named] using skipped
    · simp only [Bool.or_eq_true, Bool.not_eq_true', not_or, Bool.not_eq_false,
        Bool.not_eq_true] at skipped
      obtain ⟨named, fresh⟩ := skipped
      cases sound.written index row fresh stored with
      | placeholder sent =>
        exact absurd named (by simp [isFoldedName, placeholder, childName, foldedPrefix])
      | resolved ended tells =>
        exact absurd named (by simp [isFoldedName, resolved, foldedPrefix])
      | @folded wave value values truth =>
        simp only [named, fresh, Bool.not_true, Bool.or_self, Bool.false_eq_true, if_false]
        have output : (fan.foldRow wave index (value :: values)).output =
            some (FoldedChildren.toValue ⟨index, value :: values⟩) := rfl
        rw [output, foldedChildren_toValue]
        refine ⟨_, rfl, ⟨?_, ?_⟩, ?_, ?_⟩
        · intro other row' plain found
          rcases fill_cases fan (fan.foldRow wave index (value :: values)) view
              ⟨index, value :: values⟩ other with ⟨_, _, _, _, _, marked⟩ | ⟨rows, marks⟩
          · rw [marked] at plain
            cases plain
          · rw [rows] at found
            rw [marks] at plain
            exact sound.written other row' plain found
        · intro other marked
          rcases fill_cases fan (fan.foldRow wave index (value :: values)) view
              ⟨index, value :: values⟩ other with ⟨offset, value', place, at_, rows, -⟩ |
            ⟨rows, marks⟩
          · -- A covered position shows the value the fold has for it.
            obtain ⟨ended, succeeded⟩ := truth offset value' at_
            rw [← place] at ended succeeded
            refine ⟨_, rows, .told rfl ended (.inl ?_)⟩
            rw [succeeded]
            rfl
          · rw [rows]
            rw [marks] at marked
            exact sound.told other marked
        · intro row' found named'
          simp [fill]
        · intro other done row' found named'
          rcases fill_cases fan (fan.foldRow wave index (value :: values)) view
              ⟨index, value :: values⟩ other with ⟨_, _, _, _, _, marked⟩ | ⟨rows, marks⟩
          · exact marked
          · rw [rows] at found
            rw [marks]
            exact done row' found named'

theorem expandEach_sound (positions : List Nat) (sound : Sound fan outcome runs horizon view) :
    ∃ next, fan.expandEach positions view = .ok next ∧
      Sound fan outcome runs horizon next ∧
      (∀ index ∈ positions, Expanded next index) ∧
      ∀ other, Expanded view other → Expanded next other := by
  induction positions generalizing view with
  | nil => exact ⟨view, rfl, sound, by simp, fun other done => done⟩
  | cons index rest ih =>
    obtain ⟨middle, first, middleSound, here, before⟩ := expandAt_sound sound index
    obtain ⟨next, others, nextSound, there, kept⟩ := ih middleSound
    refine ⟨next, by simp only [expandEach, first, others], nextSound, ?_, ?_⟩
    · intro position member
      rcases List.mem_cons.mp member with same | later
      · subst same
        exact kept position here
      · exact there position later
    · intro other done
      exact kept other (before other done)

theorem Sound.shown (sound : Sound fan outcome runs horizon view) (expanded : Expanded view index)
    (found : view.rows index = some row) : Shown fan outcome runs horizon index row := by
  cases marked : view.folded index with
  | true =>
    obtain ⟨other, held, shown⟩ := sound.told index marked
    rw [held, Option.some.injEq] at found
    exact found ▸ shown
  | false =>
    cases named : isFoldedName row.name with
    | true =>
      have covered := expanded row found named
      rw [marked] at covered
      cases covered
    | false => exact (sound.written index row marked found).shown named

theorem readFan_sound {replay stored : FanRows}
    (snapshot : ∀ index row, replay index = some row →
      Written fan outcome runs horizon index row)
    (rows : ∀ index row, stored index = some row →
      Written fan outcome runs horizon index row) :
    ∃ view, fan.readFan replay stored = .ok view ∧ ∀ index, index < fan.size →
      ∀ row, view.rows index = some row → Shown fan outcome runs horizon index row := by
  have opened : Sound fan outcome runs horizon { rows := replay } :=
    ⟨fun index row _ found => snapshot index row found, fun index marked => by cases marked⟩
  obtain ⟨first, expanded, firstSound, covered, -⟩ := expandEach_sound (List.range fan.size) opened
  unfold readFan
  rw [expanded]
  dsimp only
  split
  · exact ⟨first, rfl, fun index within row found =>
      firstSound.shown (covered index (List.mem_range.mpr within)) found⟩
  · -- What the snapshot lacks comes from the store, which is as true.
    have merged : Sound fan outcome runs horizon { first with
        rows := fun index => (first.rows index).orElse fun _ => stored index } := by
      constructor
      · intro index row plain found
        cases held : first.rows index with
        | some other =>
          simp only [held, Option.orElse_some, Option.some.injEq] at found
          subst found
          exact firstSound.written index other plain held
        | none =>
          simp only [held, Option.orElse_none] at found
          exact rows index row found
      · intro index marked
        obtain ⟨row, held, shown⟩ := firstSound.told index marked
        exact ⟨row, by simp [held], shown⟩
    obtain ⟨view, again, sound, covers, -⟩ := expandEach_sound (List.range fan.size) merged
    exact ⟨view, again, fun index within row found =>
      sound.shown (covers index (List.mem_range.mpr within)) found⟩

end ChildFan

end Durable
