import Mathlib.Data.List.Count
import Mathlib.Data.List.Nodup

/-! A walk over a directed graph that collects each node it finds after the nodes below it. -/

namespace Graph

variable {α : Type}

/-- What a walk has come across. -/
structure Walk (α : Type) where
  seen : List α := []
  /-- The nodes it has collected, each after the nodes below it. -/
  order : List α := []

section Walking

variable [DecidableEq α] (children : α → List α) (present : α → Bool)

/-- Visit a node unless it has been seen: the nodes below it come first. -/
def visit : Nat → Walk α → α → Walk α
  | 0, walk, _ => walk
  | fuel + 1, walk, node =>
    if node ∈ walk.seen then walk
    else
      let marked := { walk with seen := node :: walk.seen }
      if present node then
        let below := (children node).foldl (visit fuel) marked
        { below with order := below.order ++ [node] }
      else marked

/-- The nodes a walk from some roots collects. -/
def postOrder (fuel : Nat) (roots : List α) : List α :=
  (roots.foldl (visit children present fuel) {}).order

end Walking

/-- A present node is reached from a root over nodes that are present. -/
inductive Reach (children : α → List α) (present : α → Bool) (root : α) : α → Prop where
  | root (here : present root = true) : Reach children present root root
  | child {node child : α} (above : Reach children present root node) (edge : child ∈ children node)
      (here : present child = true) :
      Reach children present root child

variable {children : α → List α} {present : α → Bool} {nodes : List α}

/-- What a part of a walk adds to what was there. -/
structure Extends (children : α → List α) (present : α → Bool) (before after : Walk α) :
    Prop where
  seen : ∀ node ∈ before.seen, node ∈ after.seen
  order : ∀ node ∈ before.order, node ∈ after.order
  collected : ∀ node ∈ after.seen,
    node ∈ before.seen ∨ present node = false ∨ node ∈ after.order
  closed : ∀ node ∈ after.order,
    node ∈ before.order ∨ ∀ child ∈ children node, child ∈ after.seen

/-- Nothing is added by doing nothing. -/
theorem Extends.refl (walk : Walk α) : Extends children present walk walk where
  seen _ member := member
  order _ member := member
  collected _ member := .inl member
  closed _ member := .inl member

/-- The parts of a walk add up. -/
theorem Extends.trans {first second third : Walk α} (one : Extends children present first second)
    (two : Extends children present second third) : Extends children present first third where
  seen node member := two.seen node (one.seen node member)
  order node member := two.order node (one.order node member)
  collected node member := by
    rcases two.collected node member with earlier | rest
    · exact (one.collected node earlier).imp_right fun rest => rest.imp_right (two.order node)
    · exact .inr rest
  closed node member := by
    rcases two.closed node member with earlier | below
    · refine (one.closed node earlier).imp_right fun below child edge => ?_
      exact two.seen child (below child edge)
    · exact .inr below

/-- A walk has collected each node once, and only nodes it has seen. -/
structure Walk.Once (walk : Walk α) : Prop where
  seen : ∀ node ∈ walk.order, node ∈ walk.seen
  nodup : walk.order.Nodup

/-- What a part of a walk collects it had not seen before. -/
structure Fresh (before after : Walk α) : Prop where
  seen : ∀ node ∈ before.seen, node ∈ after.seen
  order : ∀ node ∈ after.order, node ∈ before.order ∨ node ∉ before.seen

/-- Doing nothing collects nothing. -/
theorem Fresh.refl (walk : Walk α) : Fresh walk walk where
  seen _ member := member
  order _ member := .inl member

/-- Two parts of a walk collect what they had not seen. -/
theorem Fresh.trans {first second third : Walk α} (one : Fresh first second)
    (two : Fresh second third) : Fresh first third where
  seen node member := two.seen node (one.seen node member)
  order node member := by
    rcases two.order node member with earlier | unseen
    · exact one.order node earlier
    · exact .inr fun known => unseen (one.seen node known)

/-- Fewer elements meet a condition that is stronger, and that one of them no longer meets. -/
theorem countP_lt {weak strong : α → Bool}
    (implies : ∀ node, strong node = true → weak node = true) {node : α} (member : node ∈ nodes)
    (met : weak node = true) (unmet : strong node = false) :
    nodes.countP strong < nodes.countP weak := by
  have fewer : ∀ rest : List α, rest.countP strong ≤ rest.countP weak := fun rest =>
    List.countP_mono_left fun other _ => implies other
  induction nodes with
  | nil => simp at member
  | cons first rest ih =>
    have rested := fewer rest
    rw [List.countP_cons, List.countP_cons]
    rcases List.mem_cons.mp member with rfl | later
    · rw [met, unmet]
      simp only [if_true, Bool.false_eq_true, if_false]
      omega
    · have below := ih later
      cases held : strong first with
      | true =>
        rw [implies first held]
        omega
      | false =>
        simp only [Bool.false_eq_true, if_false]
        omega

section Unseen

variable [DecidableEq α]

/-- How many of some nodes have not been seen. -/
def unseen (nodes : List α) (walk : Walk α) : Nat :=
  nodes.countP fun node => decide (node ∉ walk.seen)

/-- The more is seen, the less is unseen. -/
theorem unseen_le {before after : Walk α} (grows : ∀ node ∈ before.seen, node ∈ after.seen) :
    unseen nodes after ≤ unseen nodes before := by
  refine List.countP_mono_left fun node _ fresh => ?_
  simp only [decide_eq_true_eq] at fresh ⊢
  exact fun member => fresh (grows node member)

/-- A node that is marked is no longer unseen. -/
theorem unseen_mark {walk : Walk α} {node : α} (member : node ∈ nodes) (fresh : node ∉ walk.seen) :
    unseen nodes { walk with seen := node :: walk.seen } < unseen nodes walk := by
  refine countP_lt (fun other unmarked => ?_) member (by simpa using fresh) (by simp)
  simp only [decide_eq_true_eq] at unmarked ⊢
  exact fun earlier => unmarked (List.mem_cons_of_mem _ earlier)

end Unseen

section Visits

variable [DecidableEq α]

/-- Visiting only nodes that are reached collects only such nodes. -/
theorem visit_sound {holds : α → Prop}
    (closed : ∀ node child, holds node → child ∈ children node → present child = true →
      holds child) (fuel : Nat) :
    ∀ (walk : Walk α) (node : α), (∀ other ∈ walk.order, holds other) →
      (present node = true → holds node) →
        ∀ other ∈ (visit children present fuel walk node).order, holds other := by
  induction fuel with
  | zero => exact fun walk node before _ => before
  | succ fuel ih =>
    intro walk node before starts
    unfold visit
    split
    · exact before
    · dsimp only
      split
      · rename_i here
        -- The nodes below are visited one after the other.
        have below : ∀ (rest : List α) (walk : Walk α), (∀ child ∈ rest, child ∈ children node) →
            (∀ other ∈ walk.order, holds other) →
              ∀ other ∈ (rest.foldl (visit children present fuel) walk).order, holds other := by
          intro rest
          induction rest with
          | nil => exact fun walk _ before => before
          | cons child rest ih' =>
            intro walk edges before
            refine ih' _ (fun other later => edges other (List.mem_cons_of_mem _ later)) ?_
            exact ih walk child before fun childHere =>
              closed node child (starts here) (edges child List.mem_cons_self) childHere
        intro other member
        rcases List.mem_append.mp member with earlier | last
        · exact below (children node) { walk with seen := node :: walk.seen } (fun _ edge => edge) before
            other earlier
        · obtain rfl := List.mem_singleton.mp last
          exact starts here
      · exact before

/-- A visit with enough fuel sees its node, and whatever is below it. -/
theorem visit_extends (all : ∀ node, present node = true → node ∈ nodes) (fuel : Nat) :
    ∀ (walk : Walk α) (node : α), unseen nodes walk < fuel →
      Extends children present walk (visit children present fuel walk node) ∧
        node ∈ (visit children present fuel walk node).seen := by
  induction fuel with
  | zero => exact fun walk node enough => absurd enough (Nat.not_lt_zero _)
  | succ fuel ih =>
    intro walk node enough
    unfold visit
    split
    · rename_i known
      exact ⟨.refl walk, known⟩
    · rename_i fresh
      dsimp only
      have marked : Extends children present walk { walk with seen := node :: walk.seen } ∨
          present node = true := by
        cases here : present node with
        | true => exact .inr rfl
        | false =>
          refine .inl ⟨fun _ => List.mem_cons_of_mem _, fun _ member => member, ?_,
            fun _ member => .inl member⟩
          intro other member
          rcases List.mem_cons.mp member with rfl | earlier
          · exact .inr (.inl here)
          · exact .inl earlier
      split
      · rename_i here
        -- One node of those that are present has been marked, so the fuel left is enough.
        have left : unseen nodes { walk with seen := node :: walk.seen } < fuel := by
          have fewer := unseen_mark (all node here) fresh
          omega
        have below : ∀ (rest : List α) (walk : Walk α), unseen nodes walk < fuel →
            Extends children present walk (rest.foldl (visit children present fuel) walk) ∧
              ∀ child ∈ rest, child ∈ (rest.foldl (visit children present fuel) walk).seen := by
          intro rest
          induction rest with
          | nil => exact fun walk _ => ⟨.refl walk, by simp⟩
          | cons child rest ih' =>
            intro walk enough
            obtain ⟨first, seen⟩ := ih walk child enough
            have less : unseen nodes (visit children present fuel walk child) ≤ unseen nodes walk :=
              unseen_le first.seen
            obtain ⟨later, others⟩ := ih' _ (Nat.lt_of_le_of_lt less enough)
            refine ⟨first.trans later, fun other member => ?_⟩
            rcases List.mem_cons.mp member with rfl | member
            · exact later.seen _ seen
            · exact others other member
        obtain ⟨grown, edges⟩ := below (children node) _ left
        refine ⟨⟨?_, ?_, ?_, ?_⟩, grown.seen node List.mem_cons_self⟩
        · exact fun other member => grown.seen other (List.mem_cons_of_mem _ member)
        · exact fun other member => List.mem_append_left _ (grown.order other member)
        · intro other member
          rcases grown.collected other member with marked | rest
          · rcases List.mem_cons.mp marked with rfl | earlier
            · exact .inr (.inr (List.mem_append_right _ (List.mem_singleton_self _)))
            · exact .inl earlier
          · exact .inr (rest.imp_right (List.mem_append_left _))
        · intro other member
          rcases List.mem_append.mp member with earlier | last
          · exact grown.closed other earlier
          · obtain rfl := List.mem_singleton.mp last
            exact .inr edges
      · rename_i absent
        exact ⟨marked.resolve_right absent, List.mem_cons_self⟩

/-- A walk collects exactly the nodes that are reached from its roots. -/
theorem mem_postOrder (all : ∀ node, present node = true → node ∈ nodes) {fuel : Nat}
    (enough : nodes.length < fuel) (roots : List α) (node : α) :
    node ∈ postOrder children present fuel roots ↔
      ∃ root ∈ roots, Reach children present root node := by
  constructor
  · -- Whatever is collected is reached.
    have sound : ∀ (rest : List α) (walk : Walk α), (∀ root ∈ rest, root ∈ roots) →
        (∀ other ∈ walk.order, ∃ root ∈ roots, Reach children present root other) →
          ∀ other ∈ (rest.foldl (visit children present fuel) walk).order,
            ∃ root ∈ roots, Reach children present root other := by
      intro rest
      induction rest with
      | nil => exact fun walk _ before => before
      | cons root rest ih =>
        intro walk among before
        refine ih _ (fun other later => among other (List.mem_cons_of_mem _ later)) ?_
        refine visit_sound ?_ fuel walk root before fun here =>
          ⟨root, among root List.mem_cons_self, .root here⟩
        rintro above child ⟨top, listed, reach⟩ edge here
        exact ⟨top, listed, .child reach edge here⟩
    exact sound roots {} (fun _ member => member) (by simp) node
  · -- Whatever is reached is seen, and collected where it is present.
    have complete : ∀ (rest : List α) (walk : Walk α),
        Extends children present walk (rest.foldl (visit children present fuel) walk) ∧
          ∀ root ∈ rest, root ∈ (rest.foldl (visit children present fuel) walk).seen := by
      intro rest
      induction rest with
      | nil => exact fun walk => ⟨.refl walk, by simp⟩
      | cons root rest ih =>
        intro walk
        have bounded : unseen nodes walk < fuel :=
          Nat.lt_of_le_of_lt List.countP_le_length enough
        obtain ⟨first, seen⟩ := visit_extends all fuel walk root bounded
        obtain ⟨later, others⟩ := ih (visit children present fuel walk root)
        refine ⟨first.trans later, fun other member => ?_⟩
        rcases List.mem_cons.mp member with rfl | member
        · exact later.seen _ seen
        · exact others other member
    obtain ⟨grown, tops⟩ := complete roots {}
    have gathered : ∀ other, present other = true →
        other ∈ (roots.foldl (visit children present fuel) {}).seen →
          other ∈ postOrder children present fuel roots := by
      intro other here member
      rcases grown.collected other member with before | absent | collected
      · simp at before
      · rw [here] at absent
        cases absent
      · exact collected
    rintro ⟨root, listed, reach⟩
    induction reach with
    | root here => exact gathered root here (tops root listed)
    | child above edge here ih =>
      rcases grown.closed _ ih with before | below
      · simp at before
      · exact gathered _ here (below _ edge)

/-- A visit collects each node once. -/
theorem visit_once (fuel : Nat) : ∀ (walk : Walk α) (node : α), walk.Once →
    (visit children present fuel walk node).Once ∧
      Fresh walk (visit children present fuel walk node) := by
  induction fuel with
  | zero => exact fun walk node once => ⟨once, .refl walk⟩
  | succ fuel ih =>
    intro walk node once
    unfold visit
    split
    · exact ⟨once, .refl walk⟩
    · rename_i unseen
      dsimp only
      have marked : ({ walk with seen := node :: walk.seen } : Walk α).Once :=
        ⟨fun other member => List.mem_cons_of_mem _ (once.seen other member), once.nodup⟩
      have marks : Fresh walk { walk with seen := node :: walk.seen } :=
        ⟨fun _ => List.mem_cons_of_mem _, fun _ member => .inl member⟩
      split
      · have below : ∀ (rest : List α) (walk : Walk α), walk.Once →
            (rest.foldl (visit children present fuel) walk).Once ∧
              Fresh walk (rest.foldl (visit children present fuel) walk) := by
          intro rest
          induction rest with
          | nil => exact fun walk once => ⟨once, .refl walk⟩
          | cons child rest ih' =>
            intro walk once
            obtain ⟨first, fresh⟩ := ih walk child once
            obtain ⟨later, more⟩ := ih' _ first
            exact ⟨later, fresh.trans more⟩
        obtain ⟨under, fresh⟩ := below (children node) _ marked
        -- The node was marked before the nodes below it were visited, so none of them collected it.
        have apart : node ∉ (List.foldl (visit children present fuel)
            { walk with seen := node :: walk.seen } (children node)).order := by
          intro member
          rcases fresh.order node member with earlier | late
          · exact unseen (once.seen node earlier)
          · exact late List.mem_cons_self
        have whole := marks.trans fresh
        refine ⟨⟨?_, ?_⟩, whole.seen, ?_⟩
        · intro other member
          rcases List.mem_append.mp member with earlier | last
          · exact under.seen other earlier
          · obtain rfl := List.mem_singleton.mp last
            exact fresh.seen other List.mem_cons_self
        · rw [← List.concat_eq_append]
          exact under.nodup.concat apart
        · intro other member
          rcases List.mem_append.mp member with earlier | last
          · exact whole.order other earlier
          · obtain rfl := List.mem_singleton.mp last
            exact .inr unseen
      · exact ⟨marked, marks⟩

/-- A walk collects each node once. -/
theorem postOrder_nodup (fuel : Nat) (roots : List α) :
    (postOrder children present fuel roots).Nodup := by
  have walks : ∀ (rest : List α) (walk : Walk α), walk.Once →
      (rest.foldl (visit children present fuel) walk).Once := by
    intro rest
    induction rest with
    | nil => exact fun walk once => once
    | cons root rest ih => exact fun walk once => ih _ (visit_once fuel walk root once).1
  exact (walks roots {} ⟨by simp, List.nodup_nil⟩).nodup

end Visits

end Graph
