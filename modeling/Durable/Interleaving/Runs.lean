import Mathlib.Data.List.Basic

/-! Runs of a state through steps that are allowed, what holds of every state they reach, and the
sequential orders that explain what overlapping calls answered. -/

namespace Interleaving

section Moves

variable {State Move : Type} (step : State → Move → Option State)

/-- The states that allowed steps lead to. -/
inductive Runs (allowed : State → Move → Prop) (start : State) : State → Prop where
  | start : Runs allowed start start
  | step {state next : State} {move : Move} (before : Runs allowed start state)
      (permitted : allowed state move) (moved : step state move = some next) :
      Runs allowed start next

/-- Where a list of moves leads, if each is possible. -/
def moves (state : State) : List Move → Option State
  | [] => some state
  | move :: rest => (step state move).bind fun next => moves next rest

variable {step} {allowed : State → Move → Prop} {start state final : State}

/-- Later moves are made from where the earlier ones lead. -/
theorem moves_append (list later : List Move) :
    moves step state (list ++ later) =
      (moves step state list).bind fun next => moves step next later := by
  induction list generalizing state with
  | nil => rfl
  | cons move rest ih =>
    simp only [List.cons_append, moves, Option.bind_assoc]
    congr 1
    funext next
    exact ih

/-- A last move is made from where the others lead. -/
theorem moves_concat (list : List Move) (move : Move) :
    moves step state (list ++ [move]) = (moves step state list).bind fun next => step next move := by
  rw [moves_append]
  simp [moves]

/-- What holds at the start, and is kept by every allowed step, holds of every state. -/
theorem Runs.invariant {Good : State → Prop} (begins : Good start)
    (keeps : ∀ state move next, Good state → allowed state move →
      step state move = some next → Good next)
    (reached : Runs step allowed start state) : Good state := by
  induction reached with
  | start => exact begins
  | step _ permitted moved ih => exact keeps _ _ _ ih permitted moved

/-- Where allowed moves lead is reached. -/
theorem Runs.of_allowed (list : List Move) (permitted : ∀ move ∈ list, ∀ state, allowed state move)
    (reached : Runs step allowed start state) (led : moves step state list = some final) :
    Runs step allowed start final := by
  induction list generalizing state with
  | nil =>
    obtain rfl := Option.some.inj led
    exact reached
  | cons move rest ih =>
    obtain ⟨next, moved, later⟩ := Option.bind_eq_some_iff.mp led
    have first := permitted move (List.mem_cons_self ..) state
    exact ih (fun other among => permitted other (List.mem_cons_of_mem _ among))
      (reached.step first moved) later

/-- Where moves lead is reached, if anything is allowed. -/
theorem Runs.of_moves (list : List Move) (reached : Runs step (fun _ _ => True) start state)
    (led : moves step state list = some final) : Runs step (fun _ _ => True) start final :=
  reached.of_allowed list (fun _ _ _ => trivial) led

end Moves

/-- A call among others that overlap it. -/
structure CallRecord (Op Ans : Type) where
  op : Op
  after : List Nat
  returned : Option Ans

/-- A call's place in a sequential order, with its answer there. -/
structure Placed (Op Ans : Type) where
  call : Nat
  op : Op
  answer : Ans
deriving DecidableEq

section Replays

variable {S Op Ans : Type} [DecidableEq Ans] (exec : S → Op → S × Ans)

/-- Where operations lead one after the other, if each of them answers as it is placed. -/
def replay (start : S) : List (Placed Op Ans) → Option S
  | [] => some start
  | placed :: rest =>
    if (exec start placed.op).2 = placed.answer then replay (exec start placed.op).1 rest else none

/-- One sequence of operations after another. -/
theorem replay_append (first second : List (Placed Op Ans)) (start : S) :
    replay exec start (first ++ second) =
      (replay exec start first).bind (replay exec · second) := by
  induction first generalizing start with
  | nil => rfl
  | cons placed rest ih =>
    simp only [List.cons_append, replay]
    split
    · exact ih _
    · rfl

/-- Operations that change nothing where they are placed. -/
theorem replay_idle {final : S} (placed : List (Placed Op Ans))
    (idle : ∀ entry ∈ placed, exec final entry.op = (final, entry.answer)) :
    replay exec final placed = some final := by
  induction placed with
  | nil => rfl
  | cons entry rest ih =>
    have first := idle entry List.mem_cons_self
    simp only [replay, first, if_true]
    exact ih fun other later => idle other (List.mem_cons_of_mem _ later)

/-- A sequential order explains some calls: it holds each that has returned, it keeps to the order
in which they were made and returned, and it leads from one state to the other. -/
structure Explains (start final : S) (calls : List (CallRecord Op Ans))
    (order : List (Placed Op Ans)) : Prop where
  once : (order.map (·.call)).Nodup
  known : ∀ placed ∈ order, ∃ record, calls[placed.call]? = some record ∧ record.op = placed.op
  returned : ∀ call record answer, calls[call]? = some record → record.returned = some answer →
    ⟨call, record.op, answer⟩ ∈ order
  realTime : order.Pairwise fun earlier later =>
    ∀ record, calls[earlier.call]? = some record → later.call ∉ record.after
  replays : replay exec start order = some final

end Replays

end Interleaving
