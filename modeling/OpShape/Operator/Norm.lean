/-
# `OpShape.Operator.Norm` — normalisation of groups.

A group of elements is moved to mean zero and scaled to variance one, then scaled and moved by
learned factors.  Layers are groups along the last dimensions, channels along all dimensions but the
second.
-/
import OpShape.Operator.Args
import OpShape.Tensor.Group
import OpShape.Tensor.Offset

namespace OpShape.Operator

/-! ## Statistics -/

/-- The mean of a group and its mean square distance from it. -/
def groupStatistics (group : List Float32) : Float32 × Float32 :=
  let count := Single.ofCount group.length
  let center := Scalar.sum group / count
  let squares := group.map fun x => (x - center) * (x - center)
  (center, Scalar.sum squares / count)

/-- One over the square root of a variance, which `eps` keeps away from zero. -/
def inverseDeviation (eps variance : Float32) : Float32 :=
  1.0 / (variance + eps).sqrt

/-- The factor at a position, or what stands for it where there are none. -/
def factorAt (factors : Option (Tensor Float32)) (position : Nat) (absent : Float32) :
    OpResult Float32 :=
  match factors with
  | some factors => Checked.fetch factors.data position
  | none => .ok absent

/-- An element after normalisation. -/
def normalised (x mean inverse scale shift : Float32) : Float32 :=
  (x - mean) * inverse * scale + shift

/-! ## Layers -/

/-- The operands of a layer normalisation, once they are known to fit each other. -/
structure LayerNorm where
  input : Tensor Float32
  weight : Option (Tensor Float32)
  bias : Option (Tensor Float32)
  /-- The first of the normalised dimensions. -/
  axis : Nat

/-- Are these the sizes that a list asks for? -/
def sizesAre (sizes : Sizes) (wanted : List Int) : Bool :=
  sizes.map signed == wanted

/-- The operands of a call. -/
def LayerNorm.ofArgs (args : TensorArgs) : OpResult LayerNorm := do
  let input ← floatArg args "input"
  let wanted ← args.ints "normalized_shape"
  if wanted.isEmpty then
    invalid "Normalized shape must have at least one dim"
  else
    let weight ← optFloatArg args "weight"
    let bias ← optFloatArg args "bias"
    let rank := input.sizes.length
    if (weight.toList ++ bias.toList).any fun factors => !sizesAre factors.sizes wanted then
      incompatible "Weight and bias must have the normalized shape"
    else if rank < wanted.length then
      incompatible "Input has fewer dims than normalized shape"
    else
      let axis := rank - wanted.length
      if !sizesAre (input.sizes.drop axis) wanted then
        incompatible "Trailing input dims must match normalized shape"
      else
        .ok { input, weight, bias, axis }

namespace LayerNorm

/-- The number of elements of a group. -/
def groupLength (norm : LayerNorm) : Nat :=
  elementCount (norm.input.sizes.drop norm.axis)

/-- The number of groups. -/
def groupCount (norm : LayerNorm) : Nat :=
  elementCount (norm.input.sizes.take norm.axis)

/-- The mean and inverse deviation of each group; zeros for groups without elements. -/
def statistics (norm : LayerNorm) (eps : Float32) : OpResult (List (Float32 × Float32)) :=
  let length := norm.groupLength
  (List.range norm.groupCount).mapM fun group => do
    if length = 0 then .ok (0.0, 0.0)
    else
      let entries ← Checked.window norm.input.data (group * length) ((group + 1) * length)
      let (center, variance) := groupStatistics entries.toList
      .ok (center, inverseDeviation eps variance)

/-- The normalised input. -/
def output (norm : LayerNorm) (statistics : List (Float32 × Float32)) :
    OpResult (Tensor Float32) :=
  let length := norm.groupLength
  let table := statistics.toArray
  Tensor.ofOffsets norm.input.sizes fun offset => do
    let x ← Checked.fetch norm.input.data offset
    let (center, inverse) ← Checked.fetch table (offset / length)
    let scale ← factorAt norm.weight (offset % length) 1.0
    let shift ← factorAt norm.bias (offset % length) 0.0
    .ok (normalised x center inverse scale shift)

/-- The sizes of a tensor with one element per group. -/
def statisticsSizes (norm : LayerNorm) : Sizes :=
  norm.input.sizes.take norm.axis ++
    List.replicate (norm.input.sizes.length - norm.axis) 1

end LayerNorm

/-- The normalised input. -/
def layerNormOf : Operator := fun args => do
  let norm ← LayerNorm.ofArgs args
  let eps ← singleArg args "eps"
  one (← norm.output (← norm.statistics eps))

/-- The normalised input, and the mean and inverse deviation of each group. -/
def nativeLayerNormOf : Operator := fun args => do
  let norm ← LayerNorm.ofArgs args
  let eps ← singleArg args "eps"
  let statistics ← norm.statistics eps
  let output ← norm.output statistics
  let centers ← Tensor.ofData norm.statisticsSizes (statistics.map Prod.fst).toArray
  let inverses ← Tensor.ofData norm.statisticsSizes (statistics.map Prod.snd).toArray
  many [.float output, .float centers, .float inverses]

/-! ## Channels -/

/-- The operands of a normalisation of channels, once they are known to fit each other. -/
structure BatchNorm where
  input : Tensor Float32
  channels : Nat
  weight : Option (Tensor Float32)
  bias : Option (Tensor Float32)
  runningMean : Option (Tensor Float32)
  runningVariance : Option (Tensor Float32)
  training : Bool
  eps : Float32

/-- An optional tensor with one element per channel. -/
def channelArg (args : TensorArgs) (channels : Nat) (name : String) :
    OpResult (Option (Tensor Float32)) := do
  let factors ← optFloatArg args name
  if factors.any fun factors => elementCount factors.sizes != channels then
    incompatible "Batch norm parameters must have one element per channel"
  else .ok factors

/-- The operands of a call. -/
def BatchNorm.ofArgs (args : TensorArgs) : OpResult BatchNorm := do
  let input ← floatArg args "input"
  match input.sizes with
  | _ :: channels :: _ =>
    let weight ← channelArg args channels "weight"
    let bias ← channelArg args channels "bias"
    let runningMean ← channelArg args channels "running_mean"
    let runningVariance ← channelArg args channels "running_var"
    let training ← args.bool "training"
    let eps ← singleArg args "eps"
    .ok { input, channels, weight, bias, runningMean, runningVariance, training, eps }
  | _ => invalid "Batch norm input must have at least 2 dims"

namespace BatchNorm

/-- The elements of each channel. -/
def channelElements (norm : BatchNorm) : List (List Float32) :=
  norm.input.groups ((List.range norm.input.sizes.length).filter fun axis => axis != 1)

/-- The mean and variance of each channel: in training those of its elements, and else those that
were kept from training. -/
def statistics (norm : BatchNorm) : OpResult (List (Float32 × Float32)) :=
  if norm.training then
    .ok (norm.channelElements.map groupStatistics)
  else
    match norm.runningMean, norm.runningVariance with
    | some means, some variances => .ok (means.data.zip variances.data).toList
    | _, _ => invalid "Running mean and variance are required in evaluation mode"

/-- The normalised input. -/
def output (norm : BatchNorm) (statistics : List (Float32 × Float32)) :
    OpResult (Tensor Float32) :=
  let table := statistics.toArray
  Tensor.ofOffsets norm.input.sizes fun offset => do
    let channel ← Checked.get (unravel offset norm.input.sizes) 1
    let x ← Checked.fetch norm.input.data offset
    let (center, variance) ← Checked.fetch table channel
    let scale ← factorAt norm.weight channel 1.0
    let shift ← factorAt norm.bias channel 0.0
    .ok (normalised x center (inverseDeviation norm.eps variance) scale shift)

/-- What is kept of the statistics: nothing outside training. -/
def saved (norm : BatchNorm) (statistics : List (Float32 × Float32)) :
    List (Float32 × Float32) :=
  if norm.training then
    statistics.map fun entry => (entry.1, inverseDeviation norm.eps entry.2)
  else []

end BatchNorm

/-- The normalised input. -/
def batchNormOf : Operator := fun args => do
  let norm ← BatchNorm.ofArgs args
  one (← norm.output (← norm.statistics))

/-- The normalised input, and the mean and inverse deviation of each channel in training. -/
def nativeBatchNormOf : Operator := fun args => do
  let norm ← BatchNorm.ofArgs args
  let statistics ← norm.statistics
  let output ← norm.output statistics
  let saved := norm.saved statistics
  many [.float output, .float (.vector (saved.map Prod.fst)), .float (.vector (saved.map Prod.snd))]

/-! ## Names -/

/-- The operators that normalise. -/
def normTable : List (String × Operator) := [
  ("aten::layer_norm", layerNormOf),
  ("aten::native_layer_norm", nativeLayerNormOf),
  ("aten::batch_norm", batchNormOf),
  ("aten::native_batch_norm", nativeBatchNormOf)
]

end OpShape.Operator
