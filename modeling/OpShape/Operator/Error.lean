/-
# `OpShape.Operator.Error` — why an operator refuses.

The reasons for which an operator on tensors refuses its arguments, and their wording.
-/
import OpShape.Fault
import OpShape.Call.Bind
import OpShape.Shape
import OpShape.Tensor.Basic

namespace OpShape

/-- Why an operator refuses. -/
inductive OpError where
  | unknownOperator (name : String)
  | invalidArguments (reason : BindError)
  | unsupportedType
  | incompatibleInputShapes (details : String)
  | invalidValue (details : String)
  | unsupportedValue (details : String)
  deriving DecidableEq, Repr

/-- The reason in words. -/
def OpError.message : OpError → String
  | unknownOperator name => "unknown operator " ++ name
  | invalidArguments reason => "invalid arguments: " ++ reason.message
  | unsupportedType => "unsupported input type"
  | incompatibleInputShapes details => "incompatible input shapes: " ++ details
  | invalidValue details => "input or attribute has invalid value: " ++ details
  | unsupportedValue details => "unsupported input or attribute value: " ++ details

/-- What an operator answers. -/
abbrev OpResult (α : Type) := Checked OpError α

/-- An argument that does not fit its use is a refusal of the operator. -/
instance : MonadLift (Except BindError) (Except (Failure OpError)) where
  monadLift := Checked.ofExcept .invalidArguments

/-- The tensors that an operator is given. -/
abbrev TensorArgs := BoundArgs RealTensor

/-- An operator on tensors, once its arguments are bound to its parameters. -/
abbrev Operator := TensorArgs → OpResult (Returned RealTensor)

namespace Operator

variable {α : Type}

/-- Refuse because shapes do not fit each other. -/
def incompatible (details : String) : OpResult α :=
  Checked.refuse (.incompatibleInputShapes details)

/-- Refuse because of a value. -/
def invalid (details : String) : OpResult α :=
  Checked.refuse (.invalidValue details)

/-- Refuse because of a value that other implementations accept. -/
def unsupported (details : String) : OpResult α :=
  Checked.refuse (.unsupportedValue details)

/-- Answer with one tensor of floats. -/
def one (tensor : Tensor Float32) : OpResult (Returned RealTensor) :=
  .ok (.one (.float tensor))

/-- Answer with one tensor of integers. -/
def oneInt (tensor : Tensor Int) : OpResult (Returned RealTensor) :=
  .ok (.one (.int tensor))

/-- Answer with several tensors. -/
def many (tensors : List RealTensor) : OpResult (Returned RealTensor) :=
  .ok (.many tensors)

end Operator

end OpShape
