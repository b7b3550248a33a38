/-
# `OpShape.Operator.Softmax` — shares along an axis.

The exponentials of a lane as shares of their sum, and the logarithms of those shares.  The greatest
element of the lane is subtracted first, which changes no share and keeps the exponentials small.
-/
import OpShape.Operator.Args
import OpShape.Tensor.Lane

namespace OpShape.Operator

/-! ## One lane -/

/-- The shares of a lane. -/
def softmaxLane (lane : List Float32) : List Float32 :=
  let greatest := Single.maximum lane
  let powers := lane.map fun x => (x - greatest).exp
  let sum := Scalar.accumulate powers
  powers.map fun x => x / sum

/-- The logarithms of the shares of a lane. -/
def logSoftmaxLane (lane : List Float32) : List Float32 :=
  let greatest := Single.maximum lane
  let logSum := (Scalar.sum (lane.map fun x => (x - greatest).exp)).log + greatest
  lane.map fun x => x - logSum

/-- The slope of `softmaxLane` at its output, times the incoming slope, for pairs of both. -/
def softmaxLaneSlope (lane : List (Float32 × Float32)) : List Float32 :=
  let dot := Scalar.sum (lane.map fun entry => entry.1 * entry.2)
  lane.map fun entry => entry.2 * (entry.1 - dot)

/-- The slope of `logSoftmaxLane` at its output, times the incoming slope, for pairs of both. -/
def logSoftmaxLaneSlope (lane : List (Float32 × Float32)) : List Float32 :=
  let sum := Scalar.sum (lane.map Prod.fst)
  lane.map fun entry => entry.1 - entry.2.exp * sum

/-! ## Operators -/

/-- Apply a function to each lane of `self`. -/
def mapLanesOf (f : List Float32 → List Float32) : Operator := fun args => do
  let input ← floatArg args "self"
  let axis ← resolveAxis input.sizes.length (← args.int "dim")
  one (← input.mapLanes axis f)

/-- Apply a function to each lane of `self`, unless a conversion is asked for. -/
def mapLanesUnconverted (f : List Float32 → List Float32) : Operator := fun args => do
  if ← args.bool "half_to_float" then
    unsupported "Conversion is only supported for half-precision inputs"
  else mapLanesOf f args

/-- Apply a function to each lane of pairs of an incoming slope and an output. -/
def mapLanePairs (f : List (Float32 × Float32) → List Float32) : Operator := fun args => do
  let grad ← floatArg args "grad_output"
  let output ← floatArg args "output"
  if grad.sizes ≠ output.sizes then
    incompatible "Gradient and output must have the same shape"
  else
    let axis ← resolveAxis grad.sizes.length (← args.int "dim")
    let pairs ← Tensor.ofData grad.sizes (grad.data.zip output.data)
    one (← pairs.mapLanes axis f)

/-! ## Names -/

/-- The operators on shares. -/
def softmaxTable : List (String × Operator) := [
  ("aten::_softmax", mapLanesUnconverted softmaxLane),
  ("aten::_log_softmax", mapLanesUnconverted logSoftmaxLane),
  ("aten::softmax.int", mapLanesOf softmaxLane),
  ("aten::log_softmax.int", mapLanesOf logSoftmaxLane),
  ("aten::_softmax_backward_data", mapLanePairs softmaxLaneSlope),
  ("aten::_log_softmax_backward_data", mapLanePairs logSoftmaxLaneSlope)
]

end OpShape.Operator
