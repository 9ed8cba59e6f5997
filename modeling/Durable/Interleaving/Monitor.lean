import Durable.Interleaving.Program

/-! Monitors: what a program may call, what it is answered, and a phase that follows both. -/

namespace Interleaving

/-- A phase that follows the operations of a program and their answers. -/
structure Monitor (Op : Type) (Ans : Op → Type) (Φ : Type) where
  allows : Φ → Op → Prop
  expects : Φ → (op : Op) → Ans op → Prop
  advance : Φ → (op : Op) → Ans op → Φ

namespace Program

variable {Op : Type} {Ans : Op → Type} {Φ α β : Type}

/-- From a phase on, a program calls only what is allowed, and ends as it should. -/
def Meets (monitor : Monitor Op Ans Φ) (ends : Φ → α → Prop) : Program Op Ans α → Φ → Prop
  | done result, phase => ends phase result
  | call op next, phase =>
    monitor.allows phase op ∧ ∀ answer, monitor.expects phase op answer →
      (next answer).Meets monitor ends (monitor.advance phase op answer)

variable {monitor : Monitor Op Ans Φ} {phase : Φ} {ends : Φ → α → Prop} {program : Program Op Ans α}

/-- A call is met when its operation is allowed and every answer leads on well. -/
@[simp] theorem meets_call {op : Op} {next : Ans op → Program Op Ans α} :
    (call op next).Meets monitor ends phase ↔
      monitor.allows phase op ∧ ∀ answer, monitor.expects phase op answer →
        (next answer).Meets monitor ends (monitor.advance phase op answer) := Iff.rfl

/-- One operation is met when it is allowed, and what follows its answer is met. -/
theorem meets_perform {ends : Φ → β → Prop} {op : Op} {rest : Ans op → Program Op Ans β}
    (allowed : monitor.allows phase op) (after : ∀ answer, monitor.expects phase op answer →
      (rest answer).Meets monitor ends (monitor.advance phase op answer)) :
    (perform op >>= rest).Meets monitor ends phase :=
  ⟨allowed, after⟩

/-- A sequence is met when its first part leads to phases its second part starts well from. -/
theorem meets_bind {middle : Φ → α → Prop} {ends : Φ → β → Prop} {first : Program Op Ans α}
    {rest : α → Program Op Ans β} (opening : first.Meets monitor middle phase)
    (closing : ∀ phase result, middle phase result → (rest result).Meets monitor ends phase) :
    (first >>= rest).Meets monitor ends phase := by
  induction first generalizing phase with
  | done result => exact closing phase result opening
  | call op next ih => exact ⟨opening.1, fun answer fits => ih answer (opening.2 answer fits)⟩

/-- A program that ends in one way ends in every way that follows from it. -/
theorem Meets.weaken {wider : Φ → α → Prop} (meets : program.Meets monitor ends phase)
    (widens : ∀ phase result, ends phase result → wider phase result) :
    program.Meets monitor wider phase := by
  induction program generalizing phase with
  | done result => exact widens phase result meets
  | call op next ih => exact ⟨meets.1, fun answer fits => ih answer (meets.2 answer fits)⟩

/-- A program whose operations are allowed in a phase, and leave it, ends in the phase. -/
theorem Uses.meets {allowed : Op → Prop} (uses : program.Uses allowed)
    (permits : ∀ op, allowed op → monitor.allows phase op)
    (stays : ∀ op answer, allowed op → monitor.advance phase op answer = phase) :
    program.Meets monitor (fun after _ => after = phase) phase := by
  induction program with
  | done result => rfl
  | call op next ih =>
    refine ⟨permits op uses.1, fun answer _ => ?_⟩
    rw [stays op answer uses.1]
    exact ih answer (uses.2 answer)

/-- What a program ends with can be exchanged for what is equivalent wherever it ends. -/
theorem Meets.congr {known left right : Φ → α → Prop} (meets : program.Meets monitor known phase)
    (same : ∀ phase result, known phase result → (left phase result ↔ right phase result)) :
    program.Meets monitor left phase ↔ program.Meets monitor right phase := by
  induction program generalizing phase with
  | done result => exact same phase result meets
  | call op next ih =>
    simp only [meets_call]
    refine and_congr_right fun _ => forall_congr' fun answer => imp_congr_right fun fits => ?_
    exact ih answer (meets.2 answer fits)

/-- Some answers of a kind lead a program to an end. -/
inductive Ends (expects : (op : Op) → Ans op → Prop) : Program Op Ans α → α → Prop where
  | done (result : α) : Ends expects (.done result) result
  | call {op : Op} {next : Ans op → Program Op Ans α} {answer : Ans op} {result : α}
      (fits : expects op answer) (rest : Ends expects (next answer) result) :
      Ends expects (.call op next) result

end Program

end Interleaving
