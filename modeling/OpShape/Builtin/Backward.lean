/-
# `OpShape.Builtin.Backward` — shape functions of the gradients of activations.

A gradient is scaled element by element by something that was saved on the way forward: the output
or the input.  Both stretch over each other.
-/
import OpShape.Builtin.Unary
import OpShape.Rule.Broadcast

namespace OpShape.Builtin

open Rule

/-! ## Shapes -/

/-- What was saved on the way forward: the output, or else the input. -/
def savedShape (args : ShapeArgs) : Except BindError (Option Sizes) :=
  match args.optTensor "output" with
  | .ok shape => .ok shape
  | .error _ => args.optTensor "self"

/-- The shape of a gradient and what was saved, stretched over each other. -/
def scaledGradient (args : ShapeArgs) : ShapeResult Sizes := do
  let gradient ← args.tensor "grad_output"
  let saved ← savedShape args
  broadcast gradient (saved.getD [])

/-- The shape of the gradient of `gelu`. -/
def geluGradient (args : ShapeArgs) : ShapeResult Sizes := do
  checkApproximate args
  scaledGradient args

/-! ## Entries -/

/-- The invocations of a gradient without other parameters. -/
def gradientInvocations : List Invocation := [
  .ok [floats [2, 3], floats [2, 3]],
  .ok [floats [2, 3], floats [3]],
  .fails [floats [2, 3], floats [4]]]

/-- Gradients of activations. -/
def backwardFamily : List ShapeFunction := [
  entry (aten "tanh_backward")
    [param "grad_output" .tensor, param "output" .tensor] 1
    (one scaledGradient) gradientInvocations,
  entry (aten "gelu_backward")
    [param "grad_output" .tensor, param "self" .tensor, paramOr "approximate" .str (.str "none")] 1
    (one geluGradient) (gradientInvocations ++ [
      .fails [floats [2], floats [2]] [("approximate", .str "fast")]]),
  entry (aten "threshold_backward")
    [param "grad_output" .tensor, param "self" .tensor, param "threshold" .float] 1
    (one scaledGradient) [
      .ok [floats [2, 3], floats [2, 3], .float 0.0],
      .ok [floats [3], floats [2, 3], .float 0.0],
      .fails [floats [2, 3], floats [4], .float 0.0]]]

end OpShape.Builtin
