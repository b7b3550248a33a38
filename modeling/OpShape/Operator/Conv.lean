/-
# `OpShape.Operator.Conv` — convolutions.

A convolution moves a kernel over the spatial dimensions of an input; a transposed one spreads each
input element over the positions that a convolution would have read it from.  Channels fall into
groups that do not see each other.  Both kernels work over any elements that can be added and
multiplied.
-/
import OpShape.Operator.Args
import OpShape.Operator.Index

namespace OpShape.Operator

variable {α : Type}

/-! ## Parameters -/

/-- How a kernel is moved along one spatial dimension. -/
structure Motion where
  stride : Nat
  padding : Nat
  dilation : Nat
  deriving DecidableEq, Repr

/-- The parameters of a convolution: one motion per spatial dimension. -/
structure ConvMotion where
  motions : List Motion
  groups : Nat
  deriving DecidableEq, Repr

/-- One value per spatial dimension from a list of one value, or of one per dimension. -/
def spatialValues (values : List Int) (count : Nat) : OpResult (List Int) :=
  match values with
  | [value] => .ok (List.replicate count value)
  | _ =>
    if values.length = count then .ok values
    else invalid "Parameter must have one value or one per spatial dim"

/-- The parameters that the lists of a call give. -/
def ConvMotion.ofLists (count : Nat) (stride padding dilation : List Int) (groups : Int) :
    OpResult ConvMotion := do
  let stride ← spatialValues stride count
  let padding ← spatialValues padding count
  let dilation ← spatialValues dilation count
  if padding.any fun p => p < 0 then
    invalid "Padding must be non-negative"
  else if (stride ++ dilation).any fun x => x ≤ 0 then
    invalid "Strides and dilations must be positive"
  else if groups ≤ 0 then
    invalid "Groups must be positive"
  else
    let motions := (stride.zip (padding.zip dilation)).map fun entry =>
      { stride := entry.1.toNat, padding := entry.2.1.toNat, dilation := entry.2.2.toNat }
    .ok { motions, groups := groups.toNat }

/-! ## Checks -/

/-- Refuse an input and a weight whose numbers of dimensions do not go together. -/
def requireRanks (input weight : Sizes) : OpResult Unit :=
  if weight.length < 3 then
    invalid "Weight must have at least 3 dims"
  else if input.length ≠ weight.length then
    incompatible "Input and weight must have the same number of dims"
  else .ok ()

/-- Refuse a bias that has not one element per channel. -/
def requireBias (bias : Option (Tensor α)) (channels : Nat) : OpResult Unit :=
  match bias with
  | some bias =>
    if bias.sizes = [channels] then .ok ()
    else incompatible "Bias must have one element per output channel"
  | none => .ok ()

/-- An answer of some sizes with the bias of the channel of each element added to it. -/
def addBias [Scalar α] (bias : Option (Tensor α)) (output : Tensor α) : OpResult (Tensor α) :=
  match bias with
  | none => .ok output
  | some bias =>
    Tensor.ofOffsets output.sizes fun offset => do
      let channel ← Checked.get (unravel offset output.sizes) 1
      .ok ((← Checked.fetch output.data offset) + (← Checked.fetch bias.data channel))

/-- The position along one dimension that a kernel position reaches, if it lies below `size`. -/
def reach? (motion : Motion) (outer inner size : Nat) : Option Nat :=
  let position : Int :=
    signed (outer * motion.stride + inner * motion.dilation) - signed motion.padding
  if position < 0 ∨ signed size ≤ position then none else some position.toNat

/-- The positions along all spatial dimensions that a kernel position reaches, if they lie inside
`sizes`. -/
def reachAll? : List Motion → List Nat → List Nat → Sizes → Option (List Nat)
  | motion :: motions, outer :: outers, inner :: inners, size :: sizes => do
    let position ← reach? motion outer inner size
    let rest ← reachAll? motions outers inners sizes
    some (position :: rest)
  | _, _, _, _ => some []

/-! ## Convolution -/

/-- The number of kernel positions along one spatial dimension. -/
def convSize (motion : Motion) (input kernel : Nat) : OpResult Nat :=
  let padded := input + 2 * motion.padding
  let extent := motion.dilation * (kernel - 1) + 1
  if kernel = 0 ∨ padded < extent then
    invalid "Kernel is larger than padded input"
  else do
    .ok ((← Checked.div (padded - extent) motion.stride) + 1)

/-- The numbers of kernel positions along all spatial dimensions. -/
def convSizes : List Motion → Sizes → Sizes → OpResult Sizes
  | motion :: motions, input :: inputs, kernel :: kernels => do
    let size ← convSize motion input kernel
    let sizes ← convSizes motions inputs kernels
    .ok (size :: sizes)
  | _, _, _ => .ok []

/-- The products that make up one element of a convolution: for each input channel of its group and
each kernel position that reaches into the input. -/
def convTerms [Scalar α] (input weight : Tensor α) (motions : List Motion)
    (batch out firstIn groupIn : Nat) (spatial kernel place : List Nat) : OpResult (List α) := do
  let perChannel ← (List.range groupIn).mapM fun c => do
    let reached := (List.range (elementCount kernel)).filterMap fun k =>
      let inner := unravel k kernel
      (reachAll? motions place inner spatial).map fun source => (source, inner)
    reached.mapM fun entry => do
      let x ← input.at? (batch :: (firstIn + c) :: entry.1)
      let w ← weight.at? (out :: c :: entry.2)
      .ok (x * w)
  .ok perChannel.flatten

/-- The convolution of an input with a weight, without a bias. -/
def convolve [Scalar α] (input weight : Tensor α) (params : ConvMotion) (sizes : Sizes)
    (groupIn groupOut : Nat) : OpResult (Tensor α) :=
  let spatial := input.sizes.drop 2
  let kernel := weight.sizes.drop 2
  Tensor.ofIndices sizes fun index =>
    match index with
    | batch :: out :: place => do
      let group ← Checked.div out groupOut
      let terms ← convTerms input weight params.motions batch out (group * groupIn) groupIn
        spatial kernel place
      .ok (Scalar.accumulate terms)
    | _ => Checked.breakDown (.outOfBounds 1 index.length)

/-- The convolution of an input of batches, channels and spatial dimensions with a weight of output
channels, input channels of a group and a kernel. -/
def conv [Scalar α] (input weight : Tensor α) (bias : Option (Tensor α)) (params : ConvMotion) :
    OpResult (Tensor α) := do
  requireRanks input.sizes weight.sizes
  match input.sizes, weight.sizes with
  | batches :: channels :: spatial, outChannels :: groupIn :: kernel =>
    if (← Checked.mod outChannels params.groups) ≠ 0 then
      incompatible "Output channels must be divisible by groups"
    else if channels ≠ groupIn * params.groups then
      incompatible "Input channels do not match weight channels and groups"
    else
      requireBias bias outChannels
      let out ← convSizes params.motions spatial kernel
      let groupOut ← Checked.div outChannels params.groups
      let output ← convolve input weight params (batches :: outChannels :: out) groupIn groupOut
      addBias bias output
  | _, _ => Checked.breakDown (.outOfBounds 1 input.sizes.length)

/-! ## Transposed convolution -/

/-- The size along one spatial dimension that a transposed convolution spreads its input over. -/
def spreadSize (motion : Motion) (extra input kernel : Nat) : OpResult Nat :=
  if motion.stride ≤ extra ∧ motion.dilation ≤ extra then
    invalid "Output padding must be smaller than stride or dilation"
  else
    let size := (signed input - 1) * signed motion.stride - 2 * signed motion.padding
      + signed motion.dilation * (signed kernel - 1) + signed extra + 1
    if size ≤ 0 then invalid "Output size is too small" else .ok size.toNat

/-- The sizes along all spatial dimensions that a transposed convolution spreads its input over. -/
def spreadSizes : List Motion → List Nat → Sizes → Sizes → OpResult Sizes
  | motion :: motions, extra :: extras, input :: inputs, kernel :: kernels => do
    let size ← spreadSize motion extra input kernel
    let sizes ← spreadSizes motions extras inputs kernels
    .ok (size :: sizes)
  | _, _, _, _ => .ok []

/-- What one input element adds to the answer: the offsets that it reaches, each with a product. -/
def spreadElement [Scalar α] (input weight : Tensor α) (params : ConvMotion) (sizes : Sizes)
    (groupIn groupOut offset : Nat) : OpResult (List (Nat × α)) := do
  let x ← Checked.fetch input.data offset
  match unravel offset input.sizes with
  | batch :: channel :: place =>
    let group ← Checked.div channel groupIn
    let kernel := weight.sizes.drop 2
    let perChannel ← (List.range groupOut).mapM fun c => do
      let reached := (List.range (elementCount kernel)).filterMap fun k =>
        let inner := unravel k kernel
        (reachAll? params.motions place inner (sizes.drop 2)).map fun target => (target, inner)
      reached.mapM fun entry => do
        let w ← weight.at? (channel :: c :: entry.2)
        .ok (ravel (batch :: (group * groupOut + c) :: entry.1) sizes, x * w)
    .ok perChannel.flatten
  | index => Checked.breakDown (.outOfBounds 1 index.length)

/-- The transposed convolution of an input of batches, channels and spatial dimensions with a weight
of input channels, output channels of a group and a kernel. -/
def convTranspose [Scalar α] (input weight : Tensor α) (bias : Option (Tensor α))
    (params : ConvMotion) (extras : List Nat) : OpResult (Tensor α) := do
  requireRanks input.sizes weight.sizes
  match input.sizes, weight.sizes with
  | batches :: channels :: spatial, inChannels :: groupOut :: kernel =>
    if channels ≠ inChannels then
      incompatible "Input channels do not match weight"
    else if (← Checked.mod inChannels params.groups) ≠ 0 then
      incompatible "Input channels must be divisible by groups"
    else
      let groupIn ← Checked.div inChannels params.groups
      requireBias bias (groupOut * params.groups)
      let out ← spreadSizes params.motions extras spatial kernel
      let sizes := batches :: (groupOut * params.groups) :: out
      let entries ← (List.range input.data.size).mapM
        (spreadElement input weight params sizes groupIn groupOut)
      -- All that is added to one place is added in the order of the input elements.
      let blank : Array α := Array.replicate (elementCount sizes) Scalar.zero
      let data ← writeAll (· + ·) blank entries.flatten
      addBias bias (← Tensor.ofData sizes data)
  | _, _ => Checked.breakDown (.outOfBounds 1 input.sizes.length)

/-! ## Operators -/

/-- The convolution of images, in batches or one by itself. -/
def conv2dOf : Operator := fun args => do
  let input ← floatArg args "input"
  let weight ← floatArg args "weight"
  let bias ← optFloatArg args "bias"
  if weight.sizes.length ≠ 4 then
    invalid "conv2d weight must be 4D"
  else
    -- An image by itself is a batch of one, which is taken away again at the end.
    let alone := input.sizes.length == 3
    let batched ← if alone then input.withSizes (1 :: input.sizes) else .ok input
    let stride ← args.ints "stride"
    let padding ← args.ints "padding"
    let dilation ← args.ints "dilation"
    let params ← ConvMotion.ofLists 2 stride padding dilation (← args.int "groups")
    let output ← conv batched weight bias params
    if alone then one (← output.withSizes (output.sizes.drop 1)) else one output

/-- The convolution over any number of spatial dimensions, transposed or not. -/
def convolutionOf : Operator := fun args => do
  let input ← floatArg args "input"
  let weight ← floatArg args "weight"
  let bias ← optFloatArg args "bias"
  requireRanks input.sizes weight.sizes
  let count := weight.sizes.length - 2
  let stride ← args.ints "stride"
  let padding ← args.ints "padding"
  let dilation ← args.ints "dilation"
  let params ← ConvMotion.ofLists count stride padding dilation (← args.int "groups")
  if ← args.bool "transposed" then
    let extras ← spatialValues (← args.ints "output_padding") count
    if extras.any fun p => p < 0 then
      invalid "Output padding must be non-negative"
    else
      one (← convTranspose input weight bias params (extras.map Int.toNat))
  else
    one (← conv input weight bias params)

/-! ## Names -/

/-- The convolutions. -/
def convTable : List (String × Operator) := [
  ("aten::conv2d", conv2dOf),
  ("aten::convolution", convolutionOf)
]

end OpShape.Operator
