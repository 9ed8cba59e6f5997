/-! Services that never look into the payloads they keep, and wrappers that rewrite the payloads. -/

namespace Interleaving

variable {Kind : Type}

/-- Payloads of several kinds. -/
abbrev Payloads (Kind : Type) := Kind → Type

/-- Rewrite payloads, each kind in its own way. -/
abbrev Relabelling (P Q : Payloads Kind) := ∀ kind, P kind → Q kind

/-- The methods of a service, with the payloads in what they are given and in what they answer. -/
structure Interface (Kind : Type) where
  /-- The methods, with whatever they are given besides payloads. -/
  Method : Type
  Given : Method → Payloads Kind → Type
  Answer : Method → Payloads Kind → Type
  /-- Rewrite the payloads of what a method is given. -/
  mapGiven {P Q : Payloads Kind} (method : Method) (change : Relabelling P Q) :
    Given method P → Given method Q
  /-- Rewrite the payloads of what a method answers. -/
  mapAnswer {P Q : Payloads Kind} (method : Method) (change : Relabelling P Q) :
    Answer method P → Answer method Q

/-- A service that keeps payloads without looking into them. -/
structure Service (interface : Interface Kind) (Failure : Type) where
  State : Payloads Kind → Type
  /-- Nothing is stored at first. -/
  init {P : Payloads Kind} : State P
  /-- Execute a method: what it answers, and what is stored afterwards. -/
  exec {P : Payloads Kind} (method : interface.Method) (given : interface.Given method P)
    (state : State P) : Except Failure (interface.Answer method P) × State P
  /-- Rewrite the payloads that are stored. -/
  mapState {P Q : Payloads Kind} (change : Relabelling P Q) : State P → State Q
  /-- There are none at first. -/
  mapState_init {P Q : Payloads Kind} (change : Relabelling P Q) : mapState change init = init
  /-- A method does with rewritten payloads what it does with the others. -/
  exec_mapState {P Q : Payloads Kind} (change : Relabelling P Q) (method : interface.Method)
    (given : interface.Given method P) (state : State P) :
    exec method (interface.mapGiven method change given) (mapState change state) =
      ((exec method given state).1.map (interface.mapAnswer method change),
        mapState change (exec method given state).2)

/-- A method with what it is given. -/
structure Call (interface : Interface Kind) (P : Payloads Kind) where
  method : interface.Method
  given : interface.Given method P

/-- What a call answers, or how it fails. -/
abbrev Interface.Result (interface : Interface Kind) (Failure : Type) (P : Payloads Kind) :=
  (method : interface.Method) × Except Failure (interface.Answer method P)

/-- A way to execute methods on a state. -/
abbrev Executor (interface : Interface Kind) (Failure : Type) (P : Payloads Kind) (State : Type) :=
  (method : interface.Method) → interface.Given method P → State →
    Except Failure (interface.Answer method P) × State

/-- What a sequence of calls answers. -/
def answers {interface : Interface Kind} {Failure State : Type} {P : Payloads Kind}
    (exec : Executor interface Failure P State) :
    List (Call interface P) → State → List (interface.Result Failure P)
  | [], _ => []
  | call :: rest, state =>
    ⟨call.method, (exec call.method call.given state).1⟩ ::
      answers exec rest (exec call.method call.given state).2

section Wrapped

variable {interface : Interface Kind} {Failure : Type} {P : Payloads Kind}

/-- A wrapper rewrites what a method is given, and what it answers. -/
structure Wrapper (interface : Interface Kind) (P : Payloads Kind) where
  /-- What the wrapped service is given. -/
  encode (method : interface.Method) : interface.Given method P → interface.Given method P
  /-- What the caller is answered. -/
  decode (method : interface.Method) : interface.Answer method P → interface.Answer method P

/-- Execute a method through a wrapper. -/
def Wrapper.exec {State : Type} (wrapper : Wrapper interface P)
    (exec : Executor interface Failure P State) : Executor interface Failure P State :=
  fun method given state =>
    let (answer, after) := exec method (wrapper.encode method given) state
    (answer.map (wrapper.decode method), after)

/-- A wrapper hands a call on as a rewriting of its payloads. -/
def Wrapper.Covers (wrapper : Wrapper interface P) (change : Relabelling P P)
    (call : Call interface P) : Prop :=
  wrapper.encode call.method call.given = interface.mapGiven call.method change call.given

/-- A wrapper undoes a rewriting of payloads in all answers. -/
def Wrapper.Undoes (wrapper : Wrapper interface P) (change : Relabelling P P) : Prop :=
  ∀ method answer, wrapper.decode method (interface.mapAnswer method change answer) = answer

/-- Through a wrapper that covers its calls, a service answers what it answers without it. -/
theorem Wrapper.answers_eq (wrapper : Wrapper interface P) (service : Service interface Failure)
    {change : Relabelling P P} (undoes : wrapper.Undoes change) :
    ∀ (calls : List (Call interface P)) (state : service.State P),
      (∀ call ∈ calls, wrapper.Covers change call) →
        answers (wrapper.exec service.exec) calls (service.mapState change state) =
          answers service.exec calls state := by
  intro calls
  -- What is stored stays rewritten, as each call is handed on rewritten.
  induction calls with
  | nil => exact fun _ _ => rfl
  | cons call rest ih =>
    intro state covers
    have first := covers call List.mem_cons_self
    have step : wrapper.exec service.exec call.method call.given (service.mapState change state) =
        ((service.exec call.method call.given state).1,
          service.mapState change (service.exec call.method call.given state).2) := by
      unfold Wrapper.exec
      rw [first, service.exec_mapState]
      -- The answer is decoded to the one without the wrapper.
      cases outcome : (service.exec call.method call.given state).1 with
      | error failure => rfl
      | ok answer => exact congrArg (fun answer => (Except.ok answer, _)) (undoes _ answer)
    rw [answers, answers, step]
    exact congrArg _ (ih _ fun other listed => covers other (List.mem_cons_of_mem _ listed))

end Wrapped

end Interleaving
