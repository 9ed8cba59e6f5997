import Durable.Data.Value

/-! The failures a run records, and the completion a child or a task hands back. -/

namespace Durable

/-- The serialized failure of a step or of a run. -/
structure StepError where
  message : String
  code : Option String := none
  details : Option Value := none
  retryable : Option Bool := none
  /-- The members that failed, which only the aggregate error of a worker's fan carries. -/
  errors : Option Value := none
deriving Repr, DecidableEq, Inhabited

/-- The wire form of a failure inside another failure's list of members. -/
def StepError.toValue (error : StepError) : Value :=
  -- An absent field is left out of the object rather than written as `null`.
  .obj (("message", .str error.message) ::
    ((error.code.map fun code => ("code", Value.str code)).toList ++
      (error.details.map fun details => ("details", details)).toList ++
      (error.retryable.map fun flag => ("retryable", Value.bool flag)).toList ++
      (error.errors.map fun errors => ("errors", errors)).toList))

/-- The envelope an external task or a child run delivers on its completion signal. -/
inductive Completion where
  | ok (value : Option Value)
  | failed (error : String) (code : Option String) (details : Option Value)
deriving Repr, DecidableEq, Inhabited

/-- The payload a completion travels as. -/
def Completion.toValue : Completion → Value
  | ok value => .obj (("ok", .bool true) :: (value.map fun value => ("value", value)).toList)
  | failed error code details =>
    -- An absent code or detail is left out rather than written as `undefined`.
    .obj ([("ok", .bool false), ("error", .str error)] ++
      (code.map fun code => ("code", Value.str code)).toList ++
      (details.map fun details => ("details", details)).toList)

/-- Whether a signal payload is a failed completion. -/
def isFailedCompletion (payload : Option Value) : Bool :=
  payload.bind (·.field "ok") == some (.bool false)

/-- A text field of a payload. -/
def textField (payload : Option Value) (key : String) : Option String :=
  match payload.bind (·.field key) with
  | some (.str text) => some text
  | _ => none

/-- The failed completion a run's failure notifies its parent with. -/
def failedCompletion (error : StepError) : Completion :=
  .failed error.message error.code error.details

/-- A failed completion's payload as the step error it was made from. -/
def completionError (payload : Option Value) (absent : String) : StepError :=
  { message := (textField payload "error").getD absent
    code := textField payload "code"
    details := payload.bind (·.field "details") }

/-- The `FatalError` thrown for a failed completion; it is never retryable. -/
def fatalCompletion (label : String) (payload : Option Value) : StepError :=
  let error := completionError payload "undefined"
  let text := error.message
  { error with message := s!"{label} failed: {text}", retryable := some false }

/-- Read a completion from a signal payload: its value, or the error the waiting body sees. -/
def unwrapCompletion (label : String) (payload : Option Value) :
    Except StepError (Option Value) :=
  if isFailedCompletion payload then .error (fatalCompletion label payload)
  else .ok (payload.bind (·.field "value"))

/-- A failed child's payload carries its message, its code, and its details. -/
theorem completionError_toValue (error : String) (code : Option String) (details : Option Value)
    (absent : String) :
    completionError (some (Completion.failed error code details).toValue) absent =
      { message := error, code, details } := by
  cases code <;> cases details <;> rfl

/-- A completion's payload is a failed one exactly when the completion failed. -/
theorem isFailedCompletion_toValue (completion : Completion) :
    isFailedCompletion (some completion.toValue) =
      match completion with
      | .ok _ => false
      | .failed .. => true := by
  cases completion with
  | ok value => cases value <;> rfl
  | failed error code details => cases code <;> cases details <;> rfl

end Durable
