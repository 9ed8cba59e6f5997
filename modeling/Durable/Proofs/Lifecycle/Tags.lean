import Durable.Interleaving.System
import Durable.Lifecycle.Tags

/-! Which of a settled run's tags survive the paths that rewrite them. -/

namespace Durable

open Interleaving

section Lasting

/-- A tag that no path means to remove. -/
def lasting (tag : String) : Bool :=
  !tagged lifecycleOwedTagPrefix tag && !tagged lifecycleTriggerFailedTagPrefix tag &&
    tag != lifecyclePendingTag && decide (tag ∉ singletonReservedTags)

end Lasting

section Publish

variable (audience : Audience) (opts : PublishOptions) {before : List String}

theorem publishedTags_lasting {tag : String} (lasts : lasting tag = true) (there : tag ∈ before) :
    tag ∈ publishedTags audience opts before := by
  unfold lasting at lasts
  simp only [Bool.and_eq_true, Bool.not_eq_true', bne_iff_ne, ne_eq, decide_eq_true_eq] at lasts
  obtain ⟨⟨⟨unowed, unfailed⟩, unpending⟩, -⟩ := lasts
  unfold publishedTags
  rw [List.mem_eraseDups]
  simp only [List.mem_append, List.mem_filter]
  refine .inl (.inl (.inl (.inl ⟨.inl ⟨there, ?_⟩, ?_⟩)))
  · simp [unowed, unfailed]
  · simpa using unpending

end Publish

section Paths

def LeavesLasting (op : TagOp) : Prop :=
  ∀ read written, op = .updateRun read written →
    ∀ tag, lasting tag = true → tag ∈ read → tag ∈ written

theorem leavesLasting_of_ne {op : TagOp} (other : ∀ read written, op ≠ .updateRun read written) :
    LeavesLasting op := by
  intro read written same
  exact absurd same (other read written)

namespace TagProgram

theorem getRun_uses {α : Type} {rest : List String → TagProgram α}
    (closing : ∀ tags, (rest tags).Uses LeavesLasting) : (getRun >>= rest).Uses LeavesLasting :=
  Program.uses_perform (leavesLasting_of_ne (by simp)) closing

theorem updateRun_uses {read written : List String}
    (kept : ∀ tag, lasting tag = true → tag ∈ read → tag ∈ written) :
    (updateRun read written).Uses LeavesLasting := by
  refine ⟨?_, fun _ => trivial⟩
  intro read' written' same
  cases same
  exact kept

theorem markChildDelivered_uses : markChildDelivered.Uses LeavesLasting := by
  refine getRun_uses fun tags => ?_
  split
  · trivial
  · exact updateRun_uses fun tag _ there => List.mem_append_left _ there

theorem publishSettledLeased_uses (audience : Audience) (opts : PublishOptions) :
    (publishSettledLeased audience opts).Uses LeavesLasting := by
  refine getRun_uses fun before => ?_
  dsimp only
  split
  · exact updateRun_uses fun tag lasts there => publishedTags_lasting audience opts lasts there
  · trivial

theorem withLifecycleLease_uses {owner : Nat} {work : TagProgram Unit}
    (uses : work.Uses LeavesLasting) (attempts : Nat) :
    (withLifecycleLease owner work attempts).Uses LeavesLasting := by
  induction attempts with
  | zero => trivial
  | succ attempts ih =>
    refine Program.uses_perform (leavesLasting_of_ne (by simp)) fun acquired => ?_
    split
    · refine Program.uses_bind uses fun _ => ?_
      exact ⟨leavesLasting_of_ne (by simp), fun _ => trivial⟩
    · exact ih

theorem publishSettled_uses (owner : Nat) (audience : Audience) (opts : PublishOptions) :
    (publishSettled owner audience opts).Uses LeavesLasting :=
  withLifecycleLease_uses (publishSettledLeased_uses audience opts) leaseAttempts

theorem healLifecycleEvents_uses (owner : Nat) (audience : Audience) (healed : List String) :
    (healLifecycleEvents owner audience healed).Uses LeavesLasting := by
  refine getRun_uses fun tags => ?_
  dsimp only
  split
  · trivial
  · exact publishSettled_uses owner audience _

end TagProgram

theorem TagPath.uses_leavesLasting (path : TagPath) : path.program.Uses LeavesLasting := by
  cases path with
  | markChildDelivered => exact TagProgram.markChildDelivered_uses
  | publishSettled owner audience opts =>
    exact TagProgram.publishSettled_uses owner audience opts
  | healLifecycleEvents owner audience healed =>
    exact TagProgram.healLifecycleEvents_uses owner audience healed
  | releaseSlot => exact ⟨leavesLasting_of_ne (by simp), fun _ => trivial⟩
  | expire => exact ⟨leavesLasting_of_ne (by simp), fun _ => trivial⟩

end Paths

section Runs

/-- A rewrite is performed while what it leaves alone is there as its path has read it. -/
def FreshOp (board : TagBoard) (op : TagOp) : Prop :=
  ∀ read written, op = .updateRun read written → (Rewrite.mk read written).Fresh board.tags

/-- Every rewrite of a run is performed while what it leaves alone is there as it was read. -/
def FreshMove (config : Config TagBoard (TagProgram Unit)) (move : Move Empty) : Prop :=
  ∀ index program op next, move = .step index → config.pool[index]? = some program →
    Program.view program = .call op next → FreshOp config.shared op

def atWork (tags : List String) (paths : List TagPath) : Config TagBoard (TagProgram Unit) where
  shared := { tags := tags }
  pool := paths.map TagPath.program

/-- The tags are those that survive, and no rewrite removes one that lasts. -/
structure TagsKept (initial : List String) (board : TagBoard) : Prop where
  intact : Intact initial board.tags board.rewrites
  lasts : ∀ rewrite ∈ board.rewrites, ∀ tag, lasting tag = true → ¬ rewrite.Removes tag

theorem withoutSlot_lasting {tags : List String} {tag : String} (lasts : lasting tag = true)
    (there : tag ∈ tags) : tag ∈ withoutSlot tags := by
  unfold lasting at lasts
  simp only [Bool.and_eq_true, decide_eq_true_eq] at lasts
  exact List.mem_filter.mpr ⟨there, by simpa using lasts.2⟩

theorem exec_intact_iff {initial : List String} {board : TagBoard}
    (intact : Intact initial board.tags board.rewrites) (op : TagOp) :
    Intact initial (board.exec op).1.tags (board.exec op).1.rewrites ↔ FreshOp board op := by
  have others : (∀ read written, op ≠ .updateRun read written) →
      Intact initial (board.exec op).1.tags (board.exec op).1.rewrites →
        (Intact initial (board.exec op).1.tags (board.exec op).1.rewrites ↔ FreshOp board op) := by
    intro other after
    refine iff_of_true after ?_
    intro read written same
    exact absurd same (other read written)
  cases op with
  | getRun => exact others (by simp) intact
  | updateRun read written =>
    refine (intact.rewrite_iff ⟨read, written⟩).trans ⟨?_, fun fresh => fresh read written rfl⟩
    intro fresh read' written' same
    cases same
    exact fresh
  | releaseSlot =>
    refine others (by simp) ?_
    exact (intact.rewrite_iff ⟨board.tags, withoutSlot board.tags⟩).mpr (Rewrite.fresh_self _ rfl)
  | tryLockRun owner =>
    refine others (by simp) ?_
    simp only [TagBoard.exec]
    split
    · exact intact
    · exact intact
  | releaseRunLock owner => exact others (by simp) intact
  | expire => exact others (by simp) intact

theorem LeavesLasting.exec {board : TagBoard} {op : TagOp} (leaves : LeavesLasting op)
    (lasts : ∀ rewrite ∈ board.rewrites, ∀ tag, lasting tag = true → ¬ rewrite.Removes tag) :
    ∀ rewrite ∈ (board.exec op).1.rewrites, ∀ tag, lasting tag = true → ¬ rewrite.Removes tag := by
  cases op with
  | getRun => exact lasts
  | updateRun read written =>
    intro rewrite listed tag lasting removes
    rcases List.mem_cons.mp listed with rfl | listed
    · exact removes.2 (leaves read written rfl tag lasting removes.1)
    · exact lasts rewrite listed tag lasting removes
  | releaseSlot =>
    intro rewrite listed tag lasting removes
    rcases List.mem_cons.mp listed with rfl | listed
    · exact removes.2 (withoutSlot_lasting lasting removes.1)
    · exact lasts rewrite listed tag lasting removes
  | tryLockRun owner =>
    simp only [TagBoard.exec]
    split
    · exact lasts
    · exact lasts
  | releaseRunLock owner => exact lasts
  | expire => exact lasts

theorem atWork_kept {tags : List String} {paths : List TagPath}
    {final : Config TagBoard (TagProgram Unit)}
    (reached : (programs TagBoard.exec).Reaches FreshMove (atWork tags paths) final) :
    TagsKept tags final.shared ∧ ∀ program ∈ final.pool, program.Uses LeavesLasting := by
  have initially : TagsKept tags { tags := tags } := ⟨intact_nil tags, by simp⟩
  have step : ∀ board op, LeavesLasting op → FreshOp board op → TagsKept tags board →
      TagsKept tags (TagBoard.exec board op).1 := by
    intro board op leaves fresh kept
    exact ⟨(exec_intact_iff kept.intact op).mpr fresh, leaves.exec kept.lasts⟩
  refine programs_invariant step ?_ initially reached
  · intro program listed
    obtain ⟨path, _, rfl⟩ := List.mem_map.mp listed
    exact path.uses_leavesLasting

end Runs

section Race

def auditAudience : Audience where
  fleetRead := true
  subscribers := ["audit"]
  registered := ["audit"]
  remote := []
  announced := []
  overdue := false
  delivery _ := .started

def settledChildTags : List String := [lifecyclePendingTag, lifecycleOwedTag "audit"]

def stampAndPublish : List TagPath :=
  [.markChildDelivered, .publishSettled 0 auditAudience {}]

/-- One after the other: the event is published, then the child is stamped. -/
def oneAfterTheOther : List (Move Empty) :=
  [.step 1, .step 1, .step 1, .step 1, .step 0, .step 0]

/-- The parent reads the child before the event is published, and stamps it afterwards. -/
def stampFromBefore : List (Move Empty) :=
  [.step 0, .step 1, .step 1, .step 1, .step 1, .step 0]

def freshMove (config : Config TagBoard (TagProgram Unit)) : Move Empty → Bool
  | .step index =>
    match config.pool[index]? with
    | some (.call (.updateRun read written) _) =>
      decide (∀ tag ∈ config.shared.tags ++ read,
        (tag ∈ read ↔ tag ∈ written) → (tag ∈ config.shared.tags ↔ tag ∈ read))
    | _ => true
  | _ => true

theorem freshMove_sound {config : Config TagBoard (TagProgram Unit)} {move : Move Empty}
    (decided : freshMove config move = true) : FreshMove config move := by
  intro index program op next same located viewed read written rewrites tag unadded unremoved
  subst same rewrites
  cases program with
  | done result => cases viewed
  | call op next' =>
    cases viewed
    simp only [freshMove, located, decide_eq_true_eq] at decided
    have alike : tag ∈ read ↔ tag ∈ written := by
      unfold Rewrite.Adds at unadded
      unfold Rewrite.Removes at unremoved
      by_cases was : tag ∈ read <;> by_cases is : tag ∈ written <;> simp_all
    by_cases known : tag ∈ config.shared.tags ++ read
    · exact decided tag known alike
    · rw [List.mem_append, not_or] at known
      exact iff_of_false known.1 known.2

theorem stampFromBefore_runs : ((programs TagBoard.exec).run
    (atWork settledChildTags stampAndPublish) stampFromBefore).isSome = true := by
  decide +kernel

end Race

end Durable
