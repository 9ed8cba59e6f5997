import Durable.Graph.PostOrder
import Mathlib.Data.List.Nodup
import Mathlib.Tactic.ByContra

/-! Removing nodes children first, where only what is removed already is passed over. -/

namespace Graph

variable {α : Type} {node root : α} {nodes : List α}

/-- Whether a node is there and has not been removed. -/
def left [DecidableEq α] (present : α → Bool) (removed : List α) (node : α) : Bool :=
  present node && decide (node ∉ removed)

/-- Remove a node that is left after the nodes below it, with the fuel as the deepest it may go. -/
def cascade [DecidableEq α] (children : α → List α) (present : α → Bool) :
    Nat → List α → α → Option (List α)
  | 0, _, _ => none
  | fuel + 1, removed, node =>
    if left present removed node then
      ((children node).foldlM (cascade children present fuel) removed).map (· ++ [node])
    else some removed

/-- A node is reached from which an edge leads to a node that reaches it. -/
def Cyclic (children : α → List α) (present : α → Bool) (root : α) : Prop :=
  ∃ node child, Reach children present root node ∧ child ∈ children node ∧
    Reach children present child node

/-- Every node of some nodes is present, and has a child among them. -/
structure Endless (children : α → List α) (present : α → Bool) (nodes : α → Prop) : Prop where
  here : ∀ node, nodes node → present node = true
  onward : ∀ node, nodes node → ∃ child ∈ children node, nodes child

section Reaching

variable {children : α → List α} {present : α → Bool}

/-- What reaches something is present. -/
theorem Reach.start (reach : Reach children present root node) : present root = true := by
  induction reach with
  | root here => exact here
  | child _ _ _ ih => exact ih

/-- Reaching is transitive. -/
theorem Reach.trans {first second third : α} (one : Reach children present first second)
    (two : Reach children present second third) : Reach children present first third := by
  induction two with
  | root _ => exact one
  | child _ edge here ih => exact .child ih edge here

/-- What is reached from a child is reached from above it. -/
theorem Reach.under {child : α} (here : present root = true) (edge : child ∈ children root)
    (reach : Reach children present child node) : Reach children present root node :=
  Reach.trans (.child (.root here) edge reach.start) reach

/-- What is reached is the root, or it is reached from one of the root's children. -/
theorem Reach.first (reach : Reach children present root node) :
    node = root ∨ ∃ child ∈ children root, Reach children present child node := by
  induction reach with
  | root _ => exact .inl rfl
  | child _ edge here ih =>
    rcases ih with rfl | ⟨child, first, reach⟩
    · exact .inr ⟨_, edge, .root here⟩
    · exact .inr ⟨child, first, .child reach edge here⟩

/-- Where more is present, more is reached. -/
theorem Reach.mono {other : α → Bool} (more : ∀ node, present node = true → other node = true)
    (reach : Reach children present root node) : Reach children other root node := by
  induction reach with
  | root here => exact .root (more _ here)
  | child _ edge here ih => exact .child ih edge (more _ here)

/-- The nodes that reach a node on a cycle never end. -/
theorem endless_of_cyclic (children : α → List α) (present : α → Bool) :
    Endless children present (Cyclic children present) where
  here _ cyclic := by
    obtain ⟨node, child, reach, -, -⟩ := cyclic
    exact reach.start
  onward root cyclic := by
    obtain ⟨node, child, reach, edge, back⟩ := cyclic
    rcases reach.first with rfl | ⟨next, first, reach⟩
    · -- The root is on the cycle, and so is the child.
      exact ⟨child, edge, node, child, back, edge, back⟩
    · exact ⟨next, first, node, child, reach, edge, back⟩

end Reaching

section Folding

variable {State : Type} {step : State → α → Option State} {before : State}

/-- What every step of a fold keeps holds where the fold ends. -/
theorem foldlM_keeps (holds : State → Prop) (nodes : List α)
    (keeps : ∀ node ∈ nodes, ∀ before after, holds before → step before node = some after →
      holds after) {after : State} (start : holds before)
    (ran : nodes.foldlM step before = some after) : holds after := by
  induction nodes generalizing before with
  | nil =>
    obtain rfl : before = after := by simpa using ran
    exact start
  | cons node rest ih =>
    rw [List.foldlM_cons, Option.bind_eq_bind, Option.bind_eq_some_iff] at ran
    obtain ⟨next, first, later⟩ := ran
    refine ih (fun other below => keeps other (List.mem_cons_of_mem _ below)) ?_ later
    exact keeps node List.mem_cons_self before next start first

/-- A fold ends where every step does from what the steps before keep. -/
theorem foldlM_ends (holds : State → Prop) (nodes : List α)
    (ends : ∀ node ∈ nodes, ∀ before, holds before →
      ∃ after, step before node = some after ∧ holds after) (start : holds before) :
    ∃ after, nodes.foldlM step before = some after := by
  induction nodes generalizing before with
  | nil => exact ⟨before, rfl⟩
  | cons node rest ih =>
    obtain ⟨next, first, kept⟩ := ends node List.mem_cons_self before start
    obtain ⟨after, later⟩ :=
      ih (fun other below => ends other (List.mem_cons_of_mem _ below)) kept
    refine ⟨after, ?_⟩
    rw [List.foldlM_cons, first]
    exact later

/-- A fold does not end where one of its nodes never does. -/
theorem foldlM_stuck {holds : State → Prop} (nodes : List α)
    (keeps : ∀ node ∈ nodes, ∀ before after, holds before → step before node = some after →
      holds after) (member : node ∈ nodes)
    (stuck : ∀ before, holds before → step before node = none) (start : holds before) :
    nodes.foldlM step before = none := by
  induction nodes generalizing before with
  | nil => simp at member
  | cons first rest ih =>
    rw [List.foldlM_cons]
    cases ran : step before first with
    | none => rfl
    | some next =>
      rcases List.mem_cons.mp member with rfl | later
      · -- The node itself did not end.
        rw [stuck before start] at ran
        cases ran
      · have kept := keeps first List.mem_cons_self before next start ran
        exact ih (fun other below => keeps other (List.mem_cons_of_mem _ below)) later kept

/-- What one step brings about, and no step undoes, holds where the fold ends. -/
theorem foldlM_meets (step : State → α → Option State) (holds meets : State → Prop)
    (member : node ∈ nodes)
    (keeps : ∀ node ∈ nodes, ∀ before after, holds before → step before node = some after →
      holds after)
    (brings : ∀ before after, holds before → step before node = some after → meets after)
    (lasts : ∀ other before after, step before other = some after → meets before → meets after)
    {after : State} (start : holds before) (ran : nodes.foldlM step before = some after) :
    meets after := by
  induction nodes generalizing before with
  | nil => simp at member
  | cons first rest ih =>
    rw [List.foldlM_cons, Option.bind_eq_bind, Option.bind_eq_some_iff] at ran
    obtain ⟨next, here, later⟩ := ran
    rcases List.mem_cons.mp member with rfl | below
    · have met := brings before next start here
      exact foldlM_keeps meets rest
        (fun other _ before after held ran => lasts other before after ran held) met later
    · have kept := keeps first List.mem_cons_self before next start here
      exact ih below (fun other below => keeps other (List.mem_cons_of_mem _ below)) kept later

end Folding

section Removing

variable [DecidableEq α] {children : α → List α} {present : α → Bool} {removed after : List α}
  {fuel : Nat}

/-- A node is left where it is present and not removed. -/
theorem left_iff : left present removed node = true ↔ present node = true ∧ node ∉ removed := by
  simp [left]

/-- Where nothing is removed, what is present is left. -/
@[simp]
theorem left_nil : left present ([] : List α) = present := by
  funext node
  simp [left]

/-- A cascade that ends found its node gone, or removed it after what is below it. -/
theorem cascade_cases (ran : cascade children present (fuel + 1) removed node = some after) :
    (left present removed node = false ∧ after = removed) ∨
      (left present removed node = true ∧ ∃ below,
        (children node).foldlM (cascade children present fuel) removed = some below ∧
          after = below ++ [node]) := by
  unfold cascade at ran
  cases here : left present removed node with
  | false =>
    rw [here] at ran
    exact .inl ⟨rfl, by simpa using ran.symm⟩
  | true =>
    rw [here, if_pos rfl, Option.map_eq_some_iff] at ran
    obtain ⟨below, folded, made⟩ := ran
    exact .inr ⟨rfl, below, folded, made.symm⟩

/-- What is removed stays removed. -/
theorem cascade_grows (fuel : Nat) : ∀ {removed after : List α} {node : α},
    cascade children present fuel removed node = some after → ∀ other ∈ removed, other ∈ after := by
  induction fuel with
  | zero =>
    intro removed after node ran
    cases ran
  | succ fuel ih =>
    intro removed after node ran other member
    rcases cascade_cases ran with ⟨-, rfl⟩ | ⟨-, below, folded, rfl⟩
    · exact member
    · have kept : other ∈ below :=
        foldlM_keeps (other ∈ ·) (children node) (fun _ _ _ _ held ran => ih ran other held)
          member folded
      exact List.mem_append_left _ kept

/-- A cascade shortens no list of removed nodes. -/
theorem cascade_length (fuel : Nat) : ∀ {removed after : List α} {node : α},
    cascade children present fuel removed node = some after → removed.length ≤ after.length := by
  induction fuel with
  | zero =>
    intro removed after node ran
    cases ran
  | succ fuel ih =>
    intro removed after node ran
    rcases cascade_cases ran with ⟨-, rfl⟩ | ⟨-, below, folded, rfl⟩
    · exact Nat.le_refl _
    · have longer : removed.length ≤ below.length :=
        foldlM_keeps (removed.length ≤ ·.length) (children node)
          (fun _ _ _ _ held ran => Nat.le_trans held (ih ran)) (Nat.le_refl _) folded
      rw [List.length_append]
      omega

/-- The more is removed, the less is left. -/
theorem left_of_grown {before : List α} (grown : ∀ node ∈ before, node ∈ after) (node : α)
    (here : left present after node = true) : left present before node = true := by
  rw [left_iff] at here ⊢
  exact ⟨here.1, fun member => here.2 (grown node member)⟩

/-- Where each step removes only what its node reaches, so does a fold for some node of it. -/
theorem foldlM_reaches {step : List α → α → Option (List α)}
    (sound : ∀ {removed after : List α} {node : α}, step removed node = some after →
      ∀ other ∈ after, other ∈ removed ∨ Reach children (left present removed) node other)
    (grows : ∀ {removed after : List α} {node : α}, step removed node = some after →
      ∀ other ∈ removed, other ∈ after) (ran : nodes.foldlM step removed = some after) (other : α)
    (member : other ∈ after) :
    other ∈ removed ∨ ∃ node ∈ nodes, Reach children (left present removed) node other := by
  induction nodes generalizing removed with
  | nil =>
    obtain rfl : removed = after := by simpa using ran
    exact .inl member
  | cons node rest ih =>
    rw [List.foldlM_cons, Option.bind_eq_bind, Option.bind_eq_some_iff] at ran
    obtain ⟨next, here, later⟩ := ran
    rcases ih later with earlier | ⟨below, edge, reach⟩
    · exact (sound here other earlier).imp_right fun reach => ⟨node, List.mem_cons_self, reach⟩
    · have less : ∀ other, left present next other = true → left present removed other = true :=
        left_of_grown (grows here)
      exact .inr ⟨below, List.mem_cons_of_mem _ edge, reach.mono less⟩

/-- A cascade removes only nodes that are left and reached over nodes that are. -/
theorem cascade_sound (fuel : Nat) : ∀ {removed after : List α} {node : α},
    cascade children present fuel removed node = some after →
      ∀ other ∈ after,
        other ∈ removed ∨ Reach children (left present removed) node other := by
  induction fuel with
  | zero =>
    intro removed after node ran
    cases ran
  | succ fuel ih =>
    intro removed after node ran
    rcases cascade_cases ran with ⟨-, rfl⟩ | ⟨here, below, folded, rfl⟩
    · exact fun other member => .inl member
    · intro other member
      rcases List.mem_append.mp member with earlier | last
      · -- What a child removed is reached from it, and so from the node.
        rcases foldlM_reaches ih (cascade_grows fuel) folded other earlier with before | ⟨child, edge, reach⟩
        · exact .inl before
        · exact .inr (reach.under here edge)
      · obtain rfl := List.mem_singleton.mp last
        exact .inr (.root here)

/-- A cascade from a node that never ends does not end. -/
theorem cascade_stuck {nodes : α → Prop} (endless : Endless children present nodes) (fuel : Nat) :
    ∀ {removed : List α} (node : α), (∀ other ∈ removed, ¬nodes other) →
      (nodes node → cascade children present fuel removed node = none) ∧
        ∀ after, cascade children present fuel removed node = some after →
          ∀ other ∈ after, ¬nodes other := by
  induction fuel with
  | zero =>
    intro removed node spared
    constructor
    · exact fun _ => rfl
    · intro after ran
      cases ran
  | succ fuel ih =>
    intro removed node spared
    -- No step below removes one of the endless nodes.
    have keeps : ∀ child ∈ children node, ∀ before after : List α,
        (∀ other ∈ before, ¬nodes other) →
          cascade children present fuel before child = some after →
            ∀ other ∈ after, ¬nodes other :=
      fun child _ before after spared ran => (ih child spared).2 after ran
    have stops : nodes node → cascade children present (fuel + 1) removed node = none := by
      intro among
      obtain ⟨child, edge, next⟩ := endless.onward node among
      have here : left present removed node = true :=
        left_iff.mpr ⟨endless.here node among, fun member => spared node member among⟩
      have folded : (children node).foldlM (cascade children present fuel) removed = none := by
        apply foldlM_stuck (children node) keeps edge _ spared
        exact fun before held => (ih child held).1 next
      unfold cascade
      rw [if_pos here, folded]
      rfl
    refine ⟨stops, fun after ran => ?_⟩
    rcases cascade_cases ran with ⟨-, rfl⟩ | ⟨-, below, folded, rfl⟩
    · exact spared
    · intro other member
      rcases List.mem_append.mp member with earlier | last
      · exact foldlM_keeps _ (children node) keeps spared folded other earlier
      · obtain rfl := List.mem_singleton.mp last
        intro among
        rw [stops among] at ran
        cases ran

/-- A cascade that ends has met no cycle. -/
theorem cascade_acyclic (ran : cascade children present fuel removed node = some after) :
    ¬Cyclic children (left present removed) node := by
  intro cyclic
  -- The nodes that reach a cycle are endless, and none of them is removed.
  have endless : Endless children present (Cyclic children (left present removed)) := by
    have ends := endless_of_cyclic children (left present removed)
    exact ⟨fun node among => (left_iff.mp (ends.here node among)).1, ends.onward⟩
  have spared : ∀ other ∈ removed, ¬Cyclic children (left present removed) other := by
    intro other member among
    have here := (endless_of_cyclic children (left present removed)).here other among
    exact (left_iff.mp here).2 member
  rw [(cascade_stuck endless fuel node spared).1 cyclic] at ran
  cases ran

/-- Each node is removed once. -/
theorem cascade_nodup (fuel : Nat) : ∀ {removed after : List α} {node : α}, removed.Nodup →
    cascade children present fuel removed node = some after → after.Nodup := by
  induction fuel with
  | zero =>
    intro removed after node _ ran
    cases ran
  | succ fuel ih =>
    intro removed after node once ran
    have acyclic := cascade_acyclic ran
    rcases cascade_cases ran with ⟨-, rfl⟩ | ⟨here, below, folded, rfl⟩
    · exact once
    · have under : below.Nodup :=
        foldlM_keeps _ (children node) (fun _ _ _ _ held ran => ih held ran) once folded
      -- A child that had removed the node would close a cycle.
      have fresh : node ∉ below := by
        intro member
        rcases foldlM_reaches (cascade_sound fuel) (cascade_grows fuel) folded node member with
          before | ⟨child, edge, reach⟩
        · exact (left_iff.mp here).2 before
        · exact acyclic ⟨node, child, .root here, edge, reach⟩
      rw [← List.concat_eq_append]
      exact under.concat fresh

/-- The children of every removed node that are present are removed. -/
def Closed (children : α → List α) (present : α → Bool) (removed : List α) : Prop :=
  ∀ node ∈ removed, ∀ child ∈ children node, present child = true → child ∈ removed

/-- A cascade removes its node, and keeps the removed nodes closed. -/
theorem cascade_closed (fuel : Nat) : ∀ {removed after : List α} {node : α},
    Closed children present removed → cascade children present fuel removed node = some after →
      Closed children present after ∧ (present node = true → node ∈ after) := by
  induction fuel with
  | zero =>
    intro removed after node _ ran
    cases ran
  | succ fuel ih =>
    intro removed after node closed ran
    rcases cascade_cases ran with ⟨gone, rfl⟩ | ⟨-, below, folded, rfl⟩
    · refine ⟨closed, fun here => ?_⟩
      by_contra fresh
      rw [left_iff.mpr ⟨here, fresh⟩] at gone
      cases gone
    · -- Below the node, everything is closed, and every child that is present is removed.
      have under : Closed children present below :=
        foldlM_keeps _ (children node) (fun _ _ _ _ held ran => (ih held ran).1) closed folded
      have edges : ∀ child ∈ children node, present child = true → child ∈ below := by
        intro child edge here
        have keeps : ∀ next ∈ children node, ∀ before after, Closed children present before →
            cascade children present fuel before next = some after →
              Closed children present after :=
          fun _ _ _ _ held ran => (ih held ran).1
        exact foldlM_meets (cascade children present fuel) (Closed children present) (child ∈ ·)
          edge keeps
          (fun _ _ held ran => (ih held ran).2 here)
          (fun _ _ _ ran member => cascade_grows fuel ran child member) closed folded
      constructor
      · intro other member child edge here
        apply List.mem_append_left
        rcases List.mem_append.mp member with earlier | last
        · exact under other earlier child edge here
        · obtain rfl := List.mem_singleton.mp last
          exact edges child edge here
      · exact fun _ => List.mem_append_right _ (List.mem_singleton_self _)

/-- With fuel for the nodes that are not on the path to it, a cascade over no cycle ends. -/
theorem cascade_ends (all : ∀ node, present node = true → node ∈ nodes) (fuel : Nat) :
    ∀ (removed path : List α) (node : α), ¬Cyclic children present node →
      path.Nodup → (∀ other ∈ path, other ∈ nodes) →
        (∀ other ∈ path, ¬Reach children present node other) →
          nodes.length < fuel + path.length →
            ∃ after, cascade children present fuel removed node = some after := by
  induction fuel with
  | zero =>
    intro removed path node _ once within _ enough
    -- A path holds no more nodes than there are.
    have short := (List.subperm_of_subset once within).length_le
    omega
  | succ fuel ih =>
    intro removed path node acyclic once within ahead enough
    unfold cascade
    split
    · rename_i here
      have there : present node = true := (left_iff.mp here).1
      have fresh : node ∉ path := fun member => ahead node member (.root there)
      have folded : ∃ below,
          (children node).foldlM (cascade children present fuel) removed = some below := by
        apply foldlM_ends (fun _ => True) _ _ trivial
        intro child edge before _
        have ends : ∃ after, cascade children present fuel before child = some after := by
          apply ih before (node :: path) child
          · -- A cycle below the child is one below the node.
            intro cyclic
            obtain ⟨first, second, reach, next, back⟩ := cyclic
            exact acyclic ⟨first, second, reach.under there edge, next, back⟩
          · exact List.nodup_cons.mpr ⟨fresh, once⟩
          · intro other member
            rcases List.mem_cons.mp member with rfl | earlier
            · exact all other there
            · exact within other earlier
          · intro other member reach
            rcases List.mem_cons.mp member with rfl | earlier
            · exact acyclic ⟨other, child, .root there, edge, reach⟩
            · exact ahead other earlier (reach.under there edge)
          · simp only [List.length_cons]
            omega
        obtain ⟨after, ran⟩ := ends
        exact ⟨after, ran, trivial⟩
      obtain ⟨below, folded⟩ := folded
      exact ⟨below ++ [node], by rw [folded]; rfl⟩
    · exact ⟨removed, rfl⟩

/-- A cascade from a root ends for some fuel exactly where the root reaches no cycle. -/
theorem cascade_ends_iff (all : ∀ node, present node = true → node ∈ nodes) (root : α) :
    (∃ fuel removed, cascade children present fuel [] root = some removed) ↔
      ¬Cyclic children present root := by
  constructor
  · intro ended
    obtain ⟨fuel, removed, ran⟩ := ended
    have acyclic := cascade_acyclic ran
    rwa [left_nil] at acyclic
  · intro acyclic
    refine ⟨nodes.length + 1, ?_⟩
    exact cascade_ends all (nodes.length + 1) [] [] root acyclic List.nodup_nil (by simp) (by simp)
      (by simp)

/-- A cascade from a root that ends has removed exactly the nodes it reaches. -/
theorem mem_cascade (ran : cascade children present fuel [] root = some removed) (node : α) :
    node ∈ removed ↔ Reach children present root node := by
  constructor
  · intro member
    rcases cascade_sound fuel ran node member with before | reach
    · simp at before
    · rwa [left_nil] at reach
  · -- The removed nodes are closed under edges, and the root is among them.
    have start : Closed children present ([] : List α) := by
      intro other member
      simp at member
    obtain ⟨closed, top⟩ := cascade_closed fuel start ran
    intro reach
    induction reach with
    | root here => exact top here
    | child above edge here ih => exact closed _ ih _ edge here

end Removing

end Graph
