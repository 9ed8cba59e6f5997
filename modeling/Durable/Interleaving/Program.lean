/-! Sequential programs that call operations of a shared state one at a time. -/

namespace Interleaving

/-- A program: it is done, or it calls an operation and goes on with its answer. -/
inductive Program (Op : Type) (Ans : Op → Type) (α : Type) where
  | done (result : α)
  | call (op : Op) (next : Ans op → Program Op Ans α)

namespace Program

variable {Op : Type} {Ans : Op → Type} {α β γ : Type} {S : Type} {op : Op}
  {program : Program Op Ans α} {allowed : Op → Prop} {exec : S → (op : Op) → S × Ans op}
  {shared after : S} {first : Program Op Ans α}

/-- Run one program, then the program its result selects. -/
def bind (first : Program Op Ans α) (rest : α → Program Op Ans β) : Program Op Ans β :=
  match first with
  | done result => rest result
  | call op next => call op fun answer => (next answer).bind rest

instance : Monad (Program Op Ans) where
  pure := done
  bind := bind

/-- The program of one operation. -/
def perform (op : Op) : Program Op Ans (Ans op) :=
  call op done

@[simp] theorem pure_def (result : α) : (pure result : Program Op Ans α) = done result := rfl

@[simp] theorem done_bind (result : α) (rest : α → Program Op Ans β) :
    (done result >>= rest) = rest result := rfl

@[simp] theorem call_bind (op : Op) (next : Ans op → Program Op Ans α)
    (rest : α → Program Op Ans β) :
    (call op next >>= rest) = call op fun answer => next answer >>= rest := rfl

@[simp] theorem perform_bind (op : Op) (rest : Ans op → Program Op Ans β) :
    (perform op >>= rest) = call op rest := rfl

/-- Sequencing is associative. -/
@[simp] theorem bind_assoc (first : Program Op Ans α) (second : α → Program Op Ans β)
    (third : β → Program Op Ans γ) :
    ((first >>= second) >>= third) = (first >>= fun result => second result >>= third) := by
  -- The operations of the first program come first on both sides.
  induction first with
  | done result => rfl
  | call op next ih =>
    simp only [call_bind]
    congr 1
    funext answer
    exact ih answer

/-- Run a program on a shared state that nothing else touches. -/
def alone {S : Type} (exec : S → (op : Op) → S × Ans op) : Program Op Ans α → S → S × α
  | done result, shared => (shared, result)
  | call op next, shared =>
    let executed := exec shared op
    (next executed.2).alone exec executed.1

/-- A finished program leaves the state alone. -/
@[simp] theorem alone_done (exec : S → (op : Op) → S × Ans op) (result : α) (shared : S) :
    (done result : Program Op Ans α).alone exec shared = (shared, result) := rfl

/-- A program runs its first operation, then what the answer selects. -/
@[simp] theorem alone_call (exec : S → (op : Op) → S × Ans op) (op : Op)
    (next : Ans op → Program Op Ans α) (shared : S) : (call op next).alone exec shared =
      (next (exec shared op).2).alone exec (exec shared op).1 := rfl

/-- One operation runs first, then what its answer selects. -/
theorem alone_perform (exec : S → (op : Op) → S × Ans op) (op : Op)
    (rest : Ans op → Program Op Ans β) (shared : S) : (perform op >>= rest).alone exec shared =
      (rest (exec shared op).2).alone exec (exec shared op).1 := rfl

/-- An operation whose outcome is known is followed by what its answer selects. -/
theorem alone_step {answer : Ans op} (known : exec shared op = (after, answer))
    (rest : Ans op → Program Op Ans β) :
    (perform op >>= rest).alone exec shared = (rest answer).alone exec after := by
  rw [alone_perform, known]

/-- A sequence runs its second part where the first one has led. -/
theorem alone_bind (exec : S → (op : Op) → S × Ans op) (first : Program Op Ans α)
    (rest : α → Program Op Ans β) (shared : S) : (first >>= rest).alone exec shared =
      (rest (first.alone exec shared).2).alone exec (first.alone exec shared).1 := by
  -- The first program's operations come first, and change the state the rest starts from.
  induction first generalizing shared with
  | done result => rfl
  | call op next ih => exact ih (exec shared op).2 (exec shared op).1

/-- A first part whose outcome is known is followed by what its result selects. -/
theorem alone_known {result : α} (known : first.alone exec shared = (after, result))
    (rest : α → Program Op Ans β) :
    (first >>= rest).alone exec shared = (rest result).alone exec after := by
  rw [alone_bind, known]

/-- A program has nothing left to call. -/
def isDone : Program Op Ans α → Bool
  | done _ => true
  | call .. => false

/-- A program that has nothing left to call is done with some result. -/
theorem eq_done_of_isDone (finished : program.isDone = true) : ∃ result, program = done result := by
  cases program with
  | done result => exact ⟨result, rfl⟩
  | call op next => cases finished

/-- Whatever the answers, the program calls only operations of a kind. -/
def Uses (allowed : Op → Prop) : Program Op Ans α → Prop
  | done _ => True
  | call op next => allowed op ∧ ∀ answer, (next answer).Uses allowed

/-- A finished program calls nothing. -/
@[simp] theorem uses_done (allowed : Op → Prop) (result : α) :
    (done result : Program Op Ans α).Uses allowed := trivial

/-- One operation, then what its answer selects, calls only what is allowed. -/
theorem uses_perform {rest : Ans op → Program Op Ans β} (opening : allowed op)
    (closing : ∀ answer, (rest answer).Uses allowed) : (perform op >>= rest).Uses allowed :=
  ⟨opening, closing⟩

/-- A sequence calls only what its two parts call. -/
theorem uses_bind {rest : α → Program Op Ans β} (opening : first.Uses allowed)
    (closing : ∀ result, (rest result).Uses allowed) : (first >>= rest).Uses allowed := by
  induction first with
  | done result => exact closing result
  | call op next ih => exact ⟨opening.1, fun answer => ih answer (opening.2 answer)⟩

/-- A program that calls only operations of one kind calls only those of a wider kind. -/
theorem Uses.mono {wider : Op → Prop} (uses : program.Uses allowed)
    (widens : ∀ op, allowed op → wider op) : program.Uses wider := by
  induction program with
  | done result => trivial
  | call op next ih => exact ⟨widens op uses.1, fun answer => ih answer (uses.2 answer)⟩

/--
What every allowed operation keeps related is kept related by a program of such operations.

The relation has to hold of a state and itself, and to compose.
-/
theorem Uses.alone_related {related : S → S → Prop} (same : ∀ shared, related shared shared)
    (compose : ∀ {first second third}, related first second → related second third →
      related first third) (step : ∀ shared op, allowed op → related shared (exec shared op).1)
    (uses : program.Uses allowed) (shared : S) : related shared (program.alone exec shared).1 := by
  -- The first operation is allowed, and the rest goes on from where it has led.
  induction program generalizing shared with
  | done result => exact same shared
  | call op next ih =>
    have first := step shared op uses.1
    have rest := ih (exec shared op).2 (uses.2 _) (exec shared op).1
    exact compose first rest

end Program

end Interleaving
