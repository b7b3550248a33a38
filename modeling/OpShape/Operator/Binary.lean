/-
# `OpShape.Operator.Binary` — operators on the elements of several tensors.

The operands are stretched over each other first.
-/
import OpShape.Operator.Activation
import OpShape.Operator.Broadcast

namespace OpShape.Operator

/-! ## Two tensors -/

/-- Combine the elements of `self` and `other`. -/
def arithmetic (f : Float32 → Float32 → Float32) : Operator := fun args => do
  let a ← floatArg args "self"
  let b ← floatArg args "other"
  one (← zip2 a b f)

/-- Combine the elements of `self` and `other`, the latter being scaled first. -/
def arithmeticScaled (f : Float32 → Float32 → Float32) : Operator := fun args => do
  let alpha ← singleArg args "alpha"
  let a ← floatArg args "self"
  let b ← floatArg args "other"
  one (← zip2 a b fun x y => f x (alpha * y))

/-- Test the elements of `self` and `other` against each other. -/
def logical (f : Float32 → Float32 → Bool) : Operator := fun args => do
  let a ← floatArg args "self"
  let b ← floatArg args "other"
  oneInt (← zip2 a b fun x y => Single.flag (f x y))

/-- The conjunction of the binary digits of two floats taken as integers. -/
def bitAnd (x y : Float32) : Int :=
  (x.toInt32 &&& y.toInt32).toInt

/-- The conjunction of the binary digits of `self` and `other`. -/
def bitwiseAnd : Operator := fun args => do
  let a ← floatArg args "self"
  let b ← floatArg args "other"
  oneInt (← zip2 a b bitAnd)

/-- Put a value where a mask is not zero. -/
def maskedFill : Operator := fun args => do
  let input ← floatArg args "self"
  let mask ← floatArg args "mask"
  let value ← singleArg args "value"
  one (← zip2 input mask fun x m => if m != 0.0 then value else x)

/-! ## Three tensors -/

/-- Take elements of `x` where `condition` is not zero, and of `y` elsewhere. -/
def choose (condition x y : Tensor Float32) : OpResult (Returned RealTensor) := do
  one (← zip3 condition x y fun c x y => if c != 0.0 then x else y)

/-- Choose between two tensors. -/
def chooseTensors : Operator := fun args => do
  let condition ← floatArg args "condition"
  let x ← floatArg args "self"
  let y ← floatArg args "other"
  choose condition x y

/-- Choose between two numbers. -/
def chooseNumbers : Operator := fun args => do
  let condition ← floatArg args "condition"
  let x := Tensor.scalar (← singleArg args "self")
  let y := Tensor.scalar (← singleArg args "other")
  choose condition x y

/-- Choose between a tensor and a number. -/
def chooseOrNumber : Operator := fun args => do
  let condition ← floatArg args "condition"
  let x ← floatArg args "self"
  let y := Tensor.scalar (← singleArg args "other")
  choose condition x y

/-- Choose between a number and a tensor. -/
def chooseNumberOr : Operator := fun args => do
  let condition ← floatArg args "condition"
  let x := Tensor.scalar (← singleArg args "self")
  let y ← floatArg args "other"
  choose condition x y

/-- Go from `self` toward `end` by a share. -/
def interpolate : Operator := fun args => do
  let start ← floatArg args "self"
  let stop ← floatArg args "end"
  let weight ← floatArg args "weight"
  one (← zip3 start stop weight fun s e w => s + w * (e - s))

/-- Combine `self` with a pair of tensors and a number. -/
def addCombined (f : Float32 → Float32 → Float32 → Float32 → Float32) : Operator := fun args => do
  let value ← singleArg args "value"
  let input ← floatArg args "self"
  let first ← floatArg args "tensor1"
  let second ← floatArg args "tensor2"
  one (← zip3 input first second (f value))

/-! ## Slopes -/

/-- The slope of `tanh` at an output, times the incoming slope. -/
def tanhBackward : Operator := fun args => do
  let grad ← floatArg args "grad_output"
  let output ← floatArg args "output"
  one (← zip2 grad output fun g y => g * (1.0 - y * y))

/-- The slope of `gelu` at an input, times the incoming slope. -/
def geluBackward : Operator := fun args => do
  let approximate ← approximateArg args
  let grad ← floatArg args "grad_output"
  let input ← floatArg args "self"
  one (← zip2 grad input fun g x => g * geluSlope approximate x)

/-- The incoming slope where an input exceeds a threshold. -/
def thresholdBackward : Operator := fun args => do
  let threshold ← singleArg args "threshold"
  let grad ← floatArg args "grad_output"
  let input ← floatArg args "self"
  one (← zip2 grad input fun g x => if x <= threshold then 0.0 else g)

/-! ## Names -/

/-- The operators on the elements of several tensors. -/
def binaryTable : List (String × Operator) := [
  ("aten::add.Tensor", arithmeticScaled fun x y => x + y),
  ("aten::sub.Tensor", arithmeticScaled fun x y => x - y),
  ("aten::mul.Tensor", arithmetic fun x y => x * y),
  ("aten::div.Tensor", arithmetic fun x y => x / y),
  ("aten::minimum", arithmetic Single.min),
  ("aten::maximum", arithmetic Single.max),
  ("aten::__and__.Tensor", bitwiseAnd),
  ("aten::bitwise_and.Tensor", bitwiseAnd),
  ("aten::logical_or", logical fun x y => x != 0.0 || y != 0.0),
  ("aten::eq.Tensor", logical fun x y => x == y),
  ("aten::gt.Tensor", logical fun x y => x > y),
  ("aten::lt.Tensor", logical fun x y => x < y),
  ("aten::where.self", chooseTensors),
  ("aten::where.Scalar", chooseNumbers),
  ("aten::where.ScalarOther", chooseOrNumber),
  ("aten::where.ScalarSelf", chooseNumberOr),
  ("aten::masked_fill.Scalar", maskedFill),
  ("aten::lerp.Tensor", interpolate),
  ("aten::addcmul", addCombined fun value x a b => x + value * a * b),
  ("aten::addcdiv", addCombined fun value x a b => x + value * a / b),
  ("aten::tanh_backward", tanhBackward),
  ("aten::gelu_backward", geluBackward),
  ("aten::threshold_backward", thresholdBackward)
]

end OpShape.Operator
