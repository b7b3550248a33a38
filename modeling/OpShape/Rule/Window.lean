/-
# `OpShape.Rule.Window` — pooling and convolution.

A window of a kernel's size moves over each spatial dimension in strides, over an input with padding
on both sides; a dilation spreads the entries of the kernel.  The size of an output dimension is the
number of places that the window takes.
-/
import OpShape.Rule.Basic

namespace OpShape.Rule

/-- The values of a parameter for each of `n` spatial dimensions; one value stands for all. -/
def spatialParam (values : List Int) (n : Nat) (details : String) : ShapeResult (List Int) := do
  if values.length = 1 then .ok (List.replicate n (← Checked.get values 0))
  else if values.length = n then .ok values
  else invalid details

/-- How a window moves over one spatial dimension. -/
structure Axis where
  kernel : Int
  padding : Int
  stride : Int
  dilation : Int
  deriving DecidableEq, Repr

/-- The axis of a dimension, for parameters that are given one value per dimension. -/
def axisAt (kernel : Int) (padding stride dilation : List Int) (place : Nat) :
    ShapeResult Axis := do
  .ok {
    kernel,
    padding := ← Checked.get padding place,
    stride := ← Checked.get stride place,
    dilation := ← Checked.get dilation place }

/-- The number of places of a window.  Rounding up, a last window may reach past the padding, but
not start in the padding behind the input. -/
def poolOutputSize (inputSize : Nat) (axis : Axis) (ceilMode : Bool) : ShapeResult Nat := do
  if axis.kernel ≤ 0 then
    invalid "kernel size must be positive"
  else if axis.stride ≤ 0 then
    invalid "stride must be positive"
  else if axis.dilation ≤ 0 then
    invalid "dilation must be positive"
  else if axis.padding < 0 then
    invalid "padding must be non-negative"
  else
    -- What is left of the padded input beside the kernel; negative if the kernel does not fit.
    let size := signed inputSize
    let room := size + 2 * axis.padding - axis.dilation * (axis.kernel - 1) - 1
    let room := if ceilMode then room + (axis.stride - 1) else room
    let places := (← Checked.ediv room axis.stride) + 1
    let places :=
      if ceilMode ∧ size + axis.padding ≤ (places - 1) * axis.stride then places - 1 else places
    if places ≤ 0 then invalid "output size is too small" else .ok places.toNat

/-! ## Pooling -/

/-- The number of places of a pooling window, whose padding must not exceed half of the kernel. -/
def pooledSize (ceilMode : Bool) (entry : Nat × Axis) : ShapeResult Nat :=
  if entry.2.kernel.tdiv 2 < entry.2.padding then
    invalid "pad should be at most half of kernel size"
  else
    poolOutputSize entry.1 entry.2 ceilMode

/-- The shape of pooling the last two dimensions of an input with three or four. -/
def pool2d (input : Sizes) (kernel stride padding dilation : List Int) (ceilMode : Bool) :
    ShapeResult Sizes := do
  let kernel ← spatialParam kernel 2 "kernel_size must have 1 or 2 values"
  let stride ←
    if stride.isEmpty then pure kernel
    else spatialParam stride 2 "stride must be empty or have 1 or 2 values"
  let padding ← spatialParam padding 2 "padding must have 1 or 2 values"
  let dilation ← spatialParam dilation 2 "dilation must have 1 or 2 values"
  if input.length ≠ 3 ∧ input.length ≠ 4 then
    wrongRank "pooling input must be a 3D or 4D tensor"
  else
    let batchDims ← Checked.sub input.length 3
    if (← Checked.slice input batchDims input.length).contains 0 then
      incompatible "pooling input has an empty non-batch dimension"
    else
      let stackDims ← Checked.sub input.length 2
      let stack ← Checked.slice input 0 stackDims
      let pooled ← (List.range 2).mapM fun place => do
        let axis ← axisAt (← Checked.get kernel place) padding stride dilation place
        pooledSize ceilMode (← Checked.get input (stackDims + place), axis)
      .ok (stack ++ pooled)

/-- The shape of pooling to given sizes. -/
def adaptivePool2d (input : Sizes) (outputSize : List Int) : ShapeResult Sizes :=
  match outputSize with
  | [height, width] =>
    if height < 0 ∨ width < 0 then invalid "output_size must be non-negative"
    else if input.length ≠ 3 ∧ input.length ≠ 4 then
      wrongRank "adaptive pooling input must be a 3D or 4D tensor"
    else do
      let batchDims ← Checked.sub input.length 3
      if (← Checked.slice input (batchDims + 1) input.length).contains 0 then
        incompatible "adaptive pooling input has an empty spatial dimension"
      else
        let stack ← Checked.slice input 0 (← Checked.sub input.length 2)
        .ok (stack ++ [height.toNat, width.toNat])
  | _ => invalid "output_size must have 2 values"

/-! ## Convolution -/

/-- The parameters of a convolution that have one value per spatial dimension. -/
structure ConvParams where
  stride : List Int
  padding : List Int
  dilation : List Int

/-- The values of the parameters for each of `n` spatial dimensions. -/
def ConvParams.spread (params : ConvParams) (n : Nat) : ShapeResult ConvParams := do
  let stride ← spatialParam params.stride n "stride has the wrong length"
  let padding ← spatialParam params.padding n "padding has the wrong length"
  let dilation ← spatialParam params.dilation n "dilation has the wrong length"
  .ok { stride, padding, dilation }

/-- Refuse parameters that no convolution accepts; `paddings` are all that must not be negative. -/
def ConvParams.check (params : ConvParams) (paddings : List Int) (groups : Int) :
    ShapeResult Unit :=
  if paddings.any fun padding => padding < 0 then invalid "negative padding is not supported"
  else if params.stride.any fun stride => stride ≤ 0 then
    invalid "non-positive stride is not supported"
  else if params.dilation.any fun dilation => dilation ≤ 0 then
    invalid "dilation must be positive"
  else if groups ≤ 0 then invalid "groups must be positive"
  else .ok ()

/-- Refuse a bias that is not a vector with one element per output channel. -/
def checkBias (bias : Option Sizes) (channels : Nat) : ShapeResult Unit :=
  match bias with
  | some shape =>
    if shape ≠ [channels] then
      incompatible "bias must be a vector with one element per output channel"
    else .ok ()
  | none => .ok ()

/-- The number of spatial dimensions of an input and a weight of equal rank, of which the weight has
at least one. -/
def spatialDims (input weight : Sizes) : ShapeResult Nat :=
  if weight.length < 3 then
    wrongRank "weight must have at least 3 dims"
  else if input.length ≠ weight.length then
    wrongRank "input and weight must have the same number of dims"
  else
    Checked.sub input.length 2

/-- The axis along which a weight moves over a spatial dimension. -/
def ConvParams.axisAt (params : ConvParams) (weight : Sizes) (place : Nat) : ShapeResult Axis := do
  let kernel ← Checked.get weight (2 + place)
  Rule.axisAt (signed kernel) params.padding params.stride params.dilation place

/-- The shape of a convolution in groups of channels. -/
def convOutputSize (input weight : Sizes) (bias : Option Sizes) (params : ConvParams)
    (groups : Int) : ShapeResult Sizes := do
  let count ← spatialDims input weight
  let params ← params.spread count
  params.check params.padding groups
  let outChannels ← Checked.get weight 0
  if (← Checked.mod outChannels groups.toNat) ≠ 0 then
    incompatible "out channels must be divisible by groups"
  else if (← Checked.get input 1) ≠ (← Checked.get weight 1) * groups.toNat then
    incompatible "input channels must match weight channels multiplied by groups"
  else
    checkBias bias outChannels
    let batch ← Checked.get input 0
    let output ← (List.range count).mapM fun place => do
      poolOutputSize (← Checked.get input (2 + place)) (← params.axisAt weight place) false
    .ok (batch :: outChannels :: output)

/-- The size that a transposed convolution gives a dimension, with elements added at its end. -/
def transposedSize (inputSize : Nat) (axis : Axis) (outputPadding : Int) : ShapeResult Nat :=
  if axis.stride ≤ outputPadding ∧ axis.dilation ≤ outputPadding then
    invalid "output padding must be smaller than either stride or dilation"
  else
    let size :=
      (signed inputSize - 1) * axis.stride - 2 * axis.padding +
        axis.dilation * (axis.kernel - 1) + outputPadding + 1
    if size ≤ 0 then invalid "output size is too small" else .ok size.toNat

/-- The shape of a transposed convolution in groups of channels. -/
def convTransposeOutputSize (input weight : Sizes) (bias : Option Sizes) (params : ConvParams)
    (outputPadding : List Int) (groups : Int) : ShapeResult Sizes := do
  let count ← spatialDims input weight
  let params ← params.spread count
  let outputPadding ← spatialParam outputPadding count "output_padding has the wrong length"
  params.check (params.padding ++ outputPadding) groups
  let inChannels ← Checked.get weight 0
  if (← Checked.get input 1) ≠ inChannels then
    incompatible "input channels must match weight input channels"
  else if (← Checked.mod inChannels groups.toNat) ≠ 0 then
    incompatible "input channels must be divisible by groups"
  else
    let outChannels := (← Checked.get weight 1) * groups.toNat
    checkBias bias outChannels
    let batch ← Checked.get input 0
    let output ← (List.range count).mapM fun place => do
      let axis ← params.axisAt weight place
      transposedSize (← Checked.get input (2 + place)) axis (← Checked.get outputPadding place)
    .ok (batch :: outChannels :: output)

end OpShape.Rule
