/-
# `OpShape.Builtin.Broadcast` — shape functions of tensors that stretch over each other.

Arithmetic, comparisons and choices that work on the elements of two or three tensors in step.
-/
import OpShape.Builtin.Entry
import OpShape.Rule.Broadcast

namespace OpShape.Builtin

open Rule

/-! ## Shapes -/

/-- The common shape of two arguments. -/
def broadcastOf (first second : String) (args : ShapeArgs) : ShapeResult Sizes := do
  let a ← args.tensor first
  let b ← args.tensor second
  broadcast a b

/-- The common shape of three arguments. -/
def broadcast3Of (first second third : String) (args : ShapeArgs) : ShapeResult Sizes := do
  let a ← args.tensor first
  let b ← args.tensor second
  let c ← args.tensor third
  broadcast3 a b c

/-- The shape of a choice between two numbers. -/
def conditionShape (args : ShapeArgs) : ShapeResult Sizes := do
  .ok (Rule.unary (← args.tensor "condition"))

/-! ## Invocations -/

/-- The invocations of an operator on two tensors. -/
def pairInvocations : List Invocation := [
  .ok [floats [2, 3], floats [2, 3]],
  .ok [floats [2, 3], floats [3]],
  .ok [floats [1, 3], floats [4, 1]],
  .ok [floats [2, 3], floats []],
  .fails [floats [2, 3], floats [4]],
  .fails [floats [2, 3], floats [3, 3]]]

/-- The invocations of an operator on three tensors. -/
def tripleInvocations : List Invocation := [
  .ok [floats [2, 3], floats [2, 3], floats [2, 3]],
  .ok [floats [2, 1], floats [3], floats []],
  .ok [floats [4, 1, 1], floats [1, 2, 1], floats [3]],
  .fails [floats [2, 3], floats [2, 3], floats [2]]]

/-! ## Entries -/

/-- The shape function of a sum or a difference, whose second operand is scaled first. -/
def scaledSumEntry (op : OpName) : ShapeFunction :=
  entry op
    [param "self" .tensor, param "other" .tensor, paramOr "alpha" .float (.float 1.0)] 1
    (one (broadcastOf "self" "other")) (pairInvocations ++ [
      .ok [floats [2], floats [2]] [("alpha", .int 2)]])

/-- The operators on two tensors without other parameters. -/
def pairOps : List OpName := [
  atenOverload "mul" "Tensor", atenOverload "div" "Tensor", atenOverload "__and__" "Tensor",
  aten "minimum", aten "maximum", atenOverload "bitwise_and" "Tensor", aten "logical_or",
  atenOverload "eq" "Tensor", atenOverload "gt" "Tensor", atenOverload "lt" "Tensor"]

/-- The shape function of an operator on two tensors without other parameters. -/
def pairEntry (op : OpName) : ShapeFunction :=
  entry op
    [param "self" .tensor, param "other" .tensor] 1
    (one (broadcastOf "self" "other")) pairInvocations

/-- The shape function of a product or a quotient that is added to a tensor. -/
def addedEntry (op : OpName) : ShapeFunction :=
  entry op
    [param "self" .tensor, param "tensor1" .tensor, param "tensor2" .tensor,
     paramOr "value" .float (.float 1.0)] 1
    (one (broadcast3Of "self" "tensor1" "tensor2")) tripleInvocations

/-- Functions of tensors that stretch over each other. -/
def broadcastFamily : List ShapeFunction :=
  [
  entry (atenOverload "masked_fill" "Scalar")
    [param "self" .tensor, param "mask" .tensor, param "value" .float] 1
    (one (broadcastOf "self" "mask")) [
      .ok [floats [2, 3], flags [2, 3], .int 0],
      .ok [floats [2, 3], flags [3], .float 1.5],
      .ok [floats [3], flags [2, 3], .float 1.5],
      .fails [floats [2, 3], flags [4], .int 0]],
  scaledSumEntry (atenOverload "add" "Tensor"),
  scaledSumEntry (atenOverload "sub" "Tensor")] ++ pairOps.map pairEntry ++ [
  entry (atenOverload "where" "self")
    [param "condition" .tensor, param "self" .tensor, param "other" .tensor] 1
    (one (broadcast3Of "condition" "self" "other")) [
      .ok [flags [2, 3], floats [2, 3], floats [2, 3]],
      .ok [flags [3], floats [2, 1], floats []],
      .fails [flags [4], floats [2, 3], floats [3]]],
  entry (atenOverload "where" "Scalar")
    [param "condition" .tensor, param "self" .float, param "other" .float] 1
    (one conditionShape) [
      .ok [flags [2, 3], .int 1, .int 0]],
  entry (atenOverload "where" "ScalarOther")
    [param "condition" .tensor, param "self" .tensor, param "other" .float] 1
    (one (broadcastOf "condition" "self")) [
      .ok [flags [2, 3], floats [3], .int 0],
      .fails [flags [2, 3], floats [2], .int 0]],
  entry (atenOverload "where" "ScalarSelf")
    [param "condition" .tensor, param "self" .float, param "other" .tensor] 1
    (one (broadcastOf "condition" "other")) [
      .ok [flags [3], .int 1, floats [2, 3]],
      .fails [flags [2, 3], .int 1, floats [2]]],
  entry (atenOverload "lerp" "Tensor")
    [param "self" .tensor, param "end" .tensor, param "weight" .tensor] 1
    (one (broadcast3Of "self" "end" "weight")) tripleInvocations,
  addedEntry (aten "addcmul"),
  addedEntry (aten "addcdiv")]

end OpShape.Builtin
