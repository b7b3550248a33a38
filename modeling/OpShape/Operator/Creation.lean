/-
# `OpShape.Operator.Creation` — tensors made from sizes and numbers.

The elements are integers if the argument `dtype` says so, or if it is absent and the operator's own
rule does.
-/
import OpShape.Operator.Args
import OpShape.Tensor.Offset

namespace OpShape.Operator

/-! ## Conversions -/

/-- The float as an integer of thirty-two bits, without its fraction; the greatest or least one
where it lies beyond them, and zero for what is not a number. -/
def truncate (x : Float) : Int :=
  x.toInt32.toInt

/-- Are the elements integers? -/
def intOutput (args : TensorArgs) (byDefault : Bool) : OpResult Bool := do
  .ok (((← args.optInt "dtype").map isIntType).getD byDefault)

/-! ## Filled tensors -/

/-- A tensor whose elements are all the same number. -/
def filled (sizes : Sizes) (value : Float) (asInts : Bool) : RealTensor :=
  if asInts then .int (.full sizes (truncate value)) else .float (.full sizes value.toFloat32)

/-- A tensor of the given sizes that is filled with a number. -/
def filledOf (value : Float) : Operator := fun args => do
  let sizes ← toSizes (← args.ints "size")
  .ok (.one (filled sizes value (← intOutput args false)))

/-- A tensor of the given sizes that is filled with the given number. -/
def fullOf : Operator := fun args => do
  filledOf (← args.float "fill_value") args

/-- A tensor of the sizes and kind of another one that is filled with a number. -/
def filledLike (value : Float) : Operator := fun args => do
  let input ← args.tensor "self"
  .ok (.one (filled input.sizes value (← intOutput args input.isInt)))

/-- A tensor of the sizes and kind of another one that is filled with the given number. -/
def fullLike : Operator := fun args => do
  filledLike (← args.float "fill_value") args

/-- A tensor of the given sizes and the kind of another one that is filled with a number. -/
def filledNew (value : Float) : Operator := fun args => do
  let input ← args.tensor "self"
  let sizes ← toSizes (← args.ints "size")
  .ok (.one (filled sizes value (← intOutput args input.isInt)))

/-- Random floats in `[0, 1)` in the sizes of a tensor. -/
def randomLike (draws : Draws) : Operator := fun args => do
  let input ← args.tensor "self"
  one (← Tensor.ofOffsets input.sizes fun offset => .ok (draws offset))

/-! ## Ranges -/

/-- The values `start + n * step` from `n` on as long as they lie before `stop`, but at most `fuel`
of them. -/
def rangeFrom (start stop step : Float) : Nat → Nat → List Float
  | 0, _ => []
  | fuel + 1, n =>
    let x := start + Float.ofNat n * step
    if (step > 0.0 && x >= stop) || (step < 0.0 && x <= stop) then []
    else x :: rangeFrom start stop step fuel (n + 1)

/-- A number of values that no range exceeds: the quotient of its extent and its step, and a few
more for what rounding may add. -/
def rangeBound (start stop step : Float) : Nat :=
  ((stop - start) / step).ceil.toUInt64.toNat + 4

/-- The values from `start` on in steps, before `stop`. -/
def range (start stop step : Float) : OpResult (List Float) :=
  if step == 0.0 then
    invalid "Step must be non-zero"
  else if !start.isFinite || !stop.isFinite then
    invalid "Range bounds must be finite"
  else if (step > 0.0 && stop < start) || (step < 0.0 && stop > start) then
    invalid "Range bounds are inconsistent with step sign"
  else
    .ok (rangeFrom start stop step (rangeBound start stop step) 0)

/-- The values of a range as a vector. -/
def rangeVector (start stop step : Float) (args : TensorArgs) :
    OpResult (Returned RealTensor) := do
  let values ← range start stop step
  if ← intOutput args false then oneInt (.vector (values.map truncate))
  else one (.vector (values.map Float.toFloat32))

/-- The values from `start` to `end` in steps. -/
def arangeStep : Operator := fun args => do
  let start ← args.float "start"
  let stop ← args.float "end"
  let step ← args.float "step"
  rangeVector start stop step args

/-- The values from `start` to `end` in steps of one. -/
def arangeStart : Operator := fun args => do
  let start ← args.float "start"
  let stop ← args.float "end"
  rangeVector start stop 1.0 args

/-- The values from zero to `end` in steps of one. -/
def arange : Operator := fun args => do
  rangeVector 0.0 (← args.float "end") 1.0 args

/-! ## Numbers as tensors -/

/-- A float as a tensor. -/
def floatScalar (name : String) : Operator := fun args => do
  one (.scalar (← singleArg args name))

/-- An integer as a tensor. -/
def intScalar : Operator := fun args => do
  oneInt (.scalar (wrapInt (← args.int "t")))

/-- A truth value as a tensor. -/
def boolScalar : Operator := fun args => do
  oneInt (.scalar (Single.flag (← args.bool "t")))

/-- The sizes of a tensor as a vector. -/
def sizesVector : Operator := fun args => do
  oneInt (.vector ((← args.tensor "self").sizes.map fun (size : Nat) => wrapInt size))

/-! ## Names -/

/-- The operators that make tensors. -/
def creationTable : List (String × Operator) := [
  ("aten::zeros", filledOf 0.0),
  ("aten::ones", filledOf 1.0),
  ("aten::empty.memory_format", filledOf 0.0),
  ("aten::full", fullOf),
  ("aten::full_like", fullLike),
  ("aten::zeros_like", filledLike 0.0),
  ("aten::ones_like", filledLike 1.0),
  ("aten::empty_like", filledLike 0.0),
  ("aten::new_zeros", filledNew 0.0),
  ("aten::new_ones", filledNew 1.0),
  ("aten::new_empty", filledNew 0.0),
  ("aten::arange.start_step", arangeStep),
  ("aten::arange.start", arangeStart),
  ("aten::arange", arange),
  ("aten::tensor.float", floatScalar "t"),
  ("aten::tensor.int", intScalar),
  ("aten::tensor.bool", boolScalar),
  ("aten::_shape_as_tensor", sizesVector),
  ("prim::NumToTensor.Scalar", floatScalar "a")
]

end OpShape.Operator
