/-
# `OpShape.Operator.Unary` — operators on the elements of one tensor.

Each of these answers with a tensor of the sizes of its operand.  Arguments are read in the order in
which their refusals are to be reported.
-/
import OpShape.Operator.Activation
import OpShape.Tensor.Offset

namespace OpShape.Operator

/-- Apply a function to each element of `self`. -/
def mapSelf (f : Float32 → Float32) : Operator := fun args => do
  one ((← floatArg args "self").map f)

/-- Answer with `self` as it is. -/
def identity : Operator := fun args => do
  .ok (.one (← args.tensor "self"))

/-- Zeros in the place of the elements of `self`. -/
def zeroed : Operator := fun args => do
  one (.full (← args.tensor "self").sizes 0.0)

/-! ## Bounds and thresholds -/

/-- Move each element into a range, whose bounds must be in order if there are elements. -/
def hardtanh : Operator := fun args => do
  let low ← singleArg args "min_val"
  let high ← singleArg args "max_val"
  let input ← floatArg args "self"
  one (← input.mapChecked (Single.clamp low high))

/-- Move each element below the lower bound up to it, and then each above the upper bound down. -/
def clamp : Operator := fun args => do
  let low ← args.optFloat "min"
  let high ← args.optFloat "max"
  if low.isNone && high.isNone then
    invalid "At least one of min or max must be specified"
  else
    let low := (low.map Float.toFloat32).getD (-Single.infinity)
    let high := (high.map Float.toFloat32).getD Single.infinity
    let input ← floatArg args "self"
    one (input.map fun x => Single.min (Single.max x low) high)

/-- Scale the negative elements down. -/
def leakyRelu : Operator := fun args => do
  let slope ← singleArg args "negative_slope"
  let input ← floatArg args "self"
  one (input.map fun x => if x < 0.0 then slope * x else x)

/-- Put a value in the place of each element that does not exceed a threshold. -/
def threshold : Operator := fun args => do
  let threshold ← singleArg args "threshold"
  let value ← singleArg args "value"
  let input ← floatArg args "self"
  one (input.map fun x => if x > threshold then x else value)

/-- The Gaussian error linear unit of each element. -/
def geluSelf : Operator := fun args => do
  let approximate ← approximateArg args
  let input ← floatArg args "self"
  one (input.map (gelu approximate))

/-! ## Chance -/

/-- Replace each element by what `pick` makes of it and of the float that is drawn for it. -/
def drawEach (draws : Draws) (tensor : Tensor Float32) (pick : Float32 → Float32 → Float32) :
    Tensor Float32 where
  sizes := tensor.sizes
  data := tensor.data.mapIdx fun position x => pick (draws position) x
  size_data := by simp [tensor.size_data]

/-- In training, drop each element with probability `p` and scale the others up for it. -/
def dropout (draws : Draws) : Operator := fun args => do
  let p ← args.float "p"
  if !(0.0 <= p && p <= 1.0) then
    invalid "Dropout probability must be in [0, 1]"
  else
    let input ← floatArg args "input"
    if !(← args.bool "train") then
      one input
    else
      let p := p.toFloat32
      let scale := if p < 1.0 then 1.0 / (1.0 - p) else 0.0
      one (drawEach draws input fun drawn x => if drawn < p then 0.0 else x * scale)

/-- One with the probability that each element gives, and else zero. -/
def bernoulli (draws : Draws) : Operator := fun args => do
  one (drawEach draws (← floatArg args "self") fun drawn p => if drawn < p then 1.0 else 0.0)

/-! ## Element types -/

/-- The tensor with its elements as integers or as floats. -/
def cast (toInt : Bool) (tensor : RealTensor) : RealTensor :=
  if toInt then .int (toInts tensor) else .float tensor.toFloats

/-- Cast to the type of a code. -/
def castTo : Operator := fun args => do
  let code ← args.int "dtype"
  .ok (.one (cast (isIntType code) (← args.tensor "self")))

/-- Cast to the type of a code, if one is given. -/
def castToOptional : Operator := fun args => do
  let input ← args.tensor "self"
  match ← args.optInt "dtype" with
  | some code => .ok (.one (cast (isIntType code) input))
  | none => .ok (.one input)

/-- Cast to the type of another tensor. -/
def castLike : Operator := fun args => do
  let other ← args.tensor "other"
  .ok (.one (cast other.isInt (← args.tensor "self")))

/-! ## A tensor and a number -/

/-- Compare each element with a number. -/
def compareWith (f : Float32 → Float32 → Bool) : Operator := fun args => do
  let other ← singleArg args "other"
  let input ← floatArg args "self"
  oneInt (input.map fun x => Single.flag (f x other))

/-- Combine each element with a number. -/
def combineWith (f : Float32 → Float32 → Float32) : Operator := fun args => do
  let other ← singleArg args "other"
  let input ← floatArg args "self"
  one (input.map fun x => f x other)

/-- Combine each element with a number that is scaled first. -/
def combineWithScaled (f : Float32 → Float32 → Float32) : Operator := fun args => do
  let other := ((← args.float "other") * (← args.float "alpha")).toFloat32
  let input ← floatArg args "self"
  one (input.map fun x => f x other)

/-- Subtract each element, scaled, from a number. -/
def subtractFrom : Operator := fun args => do
  let other ← singleArg args "other"
  let alpha ← singleArg args "alpha"
  let input ← floatArg args "self"
  one (input.map fun x => other - alpha * x)

/-- Raise each element to a power. -/
def power : Operator := fun args => do
  let exponent ← singleArg args "exponent"
  let input ← floatArg args "self"
  one (input.map fun x => x.pow exponent)

/-! ## Names -/

/-- The operators on the elements of one tensor. -/
def unaryTable : List (String × Operator) := [
  ("aten::tanh", mapSelf Float32.tanh),
  ("aten::erf", mapSelf erf),
  ("aten::sigmoid", mapSelf sigmoid),
  ("aten::hardsigmoid", mapSelf hardsigmoid),
  ("aten::square", mapSelf fun x => x * x),
  ("aten::hardswish", mapSelf fun x => x * hardsigmoid x),
  ("aten::silu", mapSelf fun x => x * sigmoid x),
  ("aten::exp", mapSelf Float32.exp),
  ("aten::sin", mapSelf Float32.sin),
  ("aten::cos", mapSelf Float32.cos),
  ("aten::sqrt", mapSelf Float32.sqrt),
  ("aten::neg", mapSelf fun x => -x),
  ("aten::floor", mapSelf Float32.floor),
  ("aten::log2", mapSelf Float32.log2),
  ("aten::rsqrt", mapSelf fun x => 1.0 / x.sqrt),
  ("aten::abs", mapSelf Float32.abs),
  ("aten::reciprocal", mapSelf fun x => 1.0 / x),
  ("aten::ceil", mapSelf Float32.ceil),
  ("aten::log", mapSelf Float32.log),
  ("aten::relu", mapSelf fun x => Single.max x 0.0),
  ("aten::detach", identity),
  ("aten::zero.functional", zeroed),
  ("aten::hardtanh", hardtanh),
  ("aten::gelu", geluSelf),
  ("aten::leaky_relu", leakyRelu),
  ("aten::clamp", clamp),
  ("aten::threshold", threshold),
  ("aten::to.dtype", castTo),
  ("aten::to.dtype_layout", castToOptional),
  ("aten::to.other", castLike),
  ("aten::_to_copy", castToOptional),
  ("aten::type_as", castLike),
  ("aten::contiguous", identity),
  ("aten::clone", identity),
  ("aten::eq.Scalar", compareWith fun x y => x == y),
  ("aten::ne.Scalar", compareWith fun x y => x != y),
  ("aten::gt.Scalar", compareWith fun x y => x > y),
  ("aten::ge.Scalar", compareWith fun x y => x >= y),
  ("aten::le.Scalar", compareWith fun x y => x <= y),
  ("aten::lt.Scalar", compareWith fun x y => x < y),
  ("aten::mul.Scalar", combineWith fun x y => x * y),
  ("aten::div.Scalar", combineWith fun x y => x / y),
  ("aten::floor_divide.Scalar", combineWith fun x y => (x / y).floor),
  ("aten::add.Scalar", combineWithScaled fun x y => x + y),
  ("aten::sub.Scalar", combineWithScaled fun x y => x - y),
  ("aten::rsub.Scalar", subtractFrom),
  ("aten::pow.Tensor_Scalar", power)
]

end OpShape.Operator
