/-
# `OpShape.Builtin.Norm` — shape functions of normalisation.

Layers are normalised over the last dimensions of an input, batches over all but the second.
-/
import OpShape.Builtin.Entry

namespace OpShape.Builtin

open Rule

/-! ## Layers -/

/-- Refuse a weight or a bias that has not the normalised shape. -/
def checkNormalizedParam (args : ShapeArgs) (normalized : List Int) (name : String) :
    ShapeResult Unit := do
  match ← args.optTensor name with
  | some shape =>
    if shape.map signed ≠ normalized then
      incompatible "weight and bias must have the normalized shape"
    else
      .ok ()
  | none => .ok ()

/-- The number of dimensions in front of the normalised ones. -/
def normalizedAxis (args : ShapeArgs) : ShapeResult Nat := do
  let input ← args.tensor "input"
  let normalized ← args.ints "normalized_shape"
  if normalized.isEmpty then
    invalid "expected normalized_shape to be at least 1-dimensional"
  else
    checkNormalizedParam args normalized "weight"
    checkNormalizedParam args normalized "bias"
    if input.length < normalized.length then
      incompatible "input has fewer dims than normalized_shape"
    else
      let axis ← Checked.sub input.length normalized.length
      if (← Checked.slice input axis input.length).map signed ≠ normalized then
        incompatible "trailing input dims must match normalized_shape"
      else
        .ok axis

/-- The shape of a normalised layer. -/
def layerNorm (args : ShapeArgs) : ShapeResult Sizes := do
  let _ ← normalizedAxis args
  .ok (Rule.unary (← args.tensor "input"))

/-- The shapes of a normalised layer, its means and its deviations. -/
def layerNormWithStats (args : ShapeArgs) : ShapeResult (List Sizes) := do
  let axis ← normalizedAxis args
  let input ← args.tensor "input"
  let stats := (← Checked.slice input 0 axis) ++ List.replicate (input.length - axis) 1
  .ok [input, stats, stats]

/-! ## Batches -/

/-- Refuse a parameter that has not one element per channel. -/
def checkChannelParam (args : ShapeArgs) (channels : Nat) (name : String) : ShapeResult Unit := do
  match ← args.optTensor name with
  | some shape =>
    if elementCount shape ≠ channels then
      incompatible "batch norm parameters must have one element per channel"
    else
      .ok ()
  | none => .ok ()

/-- Is there an argument of this name? -/
def isGiven (args : ShapeArgs) (name : String) : ShapeResult Bool := do
  .ok (← args.optTensor name).isSome

/-- The number of channels of an input that can be normalised.  Outside of training, the mean and
the variance have to be given. -/
def batchChannels (args : ShapeArgs) : ShapeResult Nat := do
  let input ← args.tensor "input"
  if input.length < 2 then
    wrongRank "batch norm input must have at least 2 dims"
  else
    let channels ← Checked.get input 1
    ["weight", "bias", "running_mean", "running_var"].forM (checkChannelParam args channels)
    let hasStats ← if ← isGiven args "running_mean" then isGiven args "running_var" else pure false
    if !(← args.bool "training") && !hasStats then
      invalid "running_mean and running_var must be defined in evaluation mode"
    else
      .ok channels

/-- The shape of a normalised batch. -/
def batchNorm (args : ShapeArgs) : ShapeResult Sizes := do
  let _ ← batchChannels args
  .ok (Rule.unary (← args.tensor "input"))

/-- The shapes of a normalised batch, its means and its deviations; outside of training nothing is
measured. -/
def batchNormWithStats (args : ShapeArgs) : ShapeResult (List Sizes) := do
  let channels ← batchChannels args
  let stats := if ← args.bool "training" then channels else 0
  .ok [← args.tensor "input", [stats], [stats]]

/-! ## Entries -/

/-- Normalisation. -/
def normFamily : List ShapeFunction := [
  entry (aten "layer_norm")
    [param "input" .tensor, param "normalized_shape" .intList, paramOr "weight" .optTensor .none,
     paramOr "bias" .optTensor .none, paramOr "eps" .float (.float 1e-5),
     paramOr "cudnn_enable" .bool (.bool true)] 1
    (one layerNorm) [
      .ok [floats [2, 3, 4], ints [4]],
      .ok [floats [2, 3, 4], ints [3, 4], floats [3, 4], floats [3, 4]],
      .fails [floats [2, 3, 4], ints [3]],
      .fails [floats [2, 3, 4], ints [4], floats [3]],
      .fails [floats [2, 3, 4], ints []],
      .fails [floats [4], ints [2, 4]]],
  entry (aten "native_layer_norm")
    [param "input" .tensor, param "normalized_shape" .intList, param "weight" .optTensor,
     param "bias" .optTensor, param "eps" .float] 3
    (many layerNormWithStats) [
      .ok [floats [2, 3, 4], ints [4], .none, .none, .float 1e-5],
      .ok [floats [2, 3, 4], ints [3, 4], floats [3, 4], floats [3, 4], .float 1e-5],
      .fails [floats [2, 3, 4], ints [2, 4], .none, .none, .float 1e-5]],
  entry (aten "batch_norm")
    [param "input" .tensor, param "weight" .optTensor, param "bias" .optTensor,
     param "running_mean" .optTensor, param "running_var" .optTensor, param "training" .bool,
     param "momentum" .float, param "eps" .float, param "cudnn_enabled" .bool] 1
    (one batchNorm) [
      .ok [floats [2, 3, 4, 4], floats [3], floats [3], floats [3], floats [3], .bool false,
        .float 0.1, .float 1e-5, .bool true],
      .fails [floats [2, 3, 4, 4], .none, .none, .none, .none, .bool false, .float 0.1, .float 1e-5,
        .bool true]],
  entry (aten "native_batch_norm")
    [param "input" .tensor, param "weight" .optTensor, param "bias" .optTensor,
     param "running_mean" .optTensor, param "running_var" .optTensor, param "training" .bool,
     param "momentum" .float, param "eps" .float] 3
    (many batchNormWithStats) [
      .ok [floats [2, 3, 4, 4], floats [3], floats [3], floats [3], floats [3], .bool true,
        .float 0.1, .float 1e-5],
      .ok [floats [2, 3, 4, 4], floats [3], floats [3], floats [3], floats [3], .bool false,
        .float 0.1, .float 1e-5],
      .ok [floats [4, 3], .none, .none, .none, .none, .bool true, .float 0.1, .float 1e-5],
      .fails [floats [2, 3, 4, 4], .none, .none, .none, .none, .bool false, .float 0.1,
        .float 1e-5],
      .fails [floats [2, 3, 4, 4], floats [4], .none, .none, .none, .bool true, .float 0.1,
        .float 1e-5]]]

end OpShape.Builtin
