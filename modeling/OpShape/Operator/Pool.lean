/-
# `OpShape.Operator.Pool` — pooling over planes.

The input is a stack of planes, its last two dimensions.  A window moves over each plane, and one
value is put in the place of what it shows; positions outside the plane are never looked at.
-/
import OpShape.Operator.Args
import OpShape.Operator.Index

namespace OpShape.Operator

variable {α : Type}

/-! ## Windows -/

/-- How a window of a size is moved along one dimension. -/
structure WindowMotion where
  kernel : Nat
  stride : Nat
  padding : Nat
  dilation : Nat
  deriving DecidableEq, Repr

/-- A window over planes: its motion down and its motion across. -/
structure PlaneWindow where
  down : WindowMotion
  across : WindowMotion
  /-- Does a last window count that is only partly filled? -/
  ceilMode : Bool
  deriving DecidableEq, Repr

/-- A value for each dimension of a plane from a list of one value or two. -/
def pairOf (values : List Int) (details : String) : OpResult (Int × Int) :=
  match values with
  | [x] => .ok (x, x)
  | [x, y] => .ok (x, y)
  | _ => invalid details

/-- Do both entries of a pair have a property? -/
def both (p : Int → Bool) (pair : Int × Int) : Bool :=
  p pair.1 && p pair.2

/-- The window that the lists of a call give; without strides, windows lie side by side. -/
def PlaneWindow.ofLists (kernel stride padding dilation : List Int) (ceilMode : Bool) :
    OpResult PlaneWindow := do
  let kernel ← pairOf kernel "Kernel size must have 1 or 2 values"
  let stride ←
    if stride.isEmpty then .ok kernel else pairOf stride "Stride must have 0, 1 or 2 values"
  let padding ← pairOf padding "Padding must have 1 or 2 values"
  let dilation ← pairOf dilation "Dilation must have 1 or 2 values"
  let isPositive (x : Int) : Bool := 0 < x
  if !(both isPositive kernel && both isPositive stride && both isPositive dilation) then
    invalid "Kernel size, stride and dilation must be positive"
  else if !both (fun p => 0 ≤ p) padding then
    invalid "Padding must be non-negative"
  else if kernel.1 / 2 < padding.1 ∨ kernel.2 / 2 < padding.2 then
    invalid "Padding must be at most half the kernel size"
  else
    .ok {
      down := { kernel := kernel.1.toNat, stride := stride.1.toNat,
                padding := padding.1.toNat, dilation := dilation.1.toNat }
      across := { kernel := kernel.2.toNat, stride := stride.2.toNat,
                  padding := padding.2.toNat, dilation := dilation.2.toNat }
      ceilMode }

/-- The number of windows along a dimension.  With `ceilMode` the last window must start inside the
input or the padding before it.  The numbers on the way are those of the integers, of any length. -/
def WindowMotion.count (motion : WindowMotion) (ceilMode : Bool) (size : Nat) : OpResult Nat := do
  let stride := signed motion.stride
  let padding := signed motion.padding
  let input := signed size
  let span := input + 2 * padding - signed motion.dilation * (signed motion.kernel - 1) - 1
  let count := (← Checked.ediv (if ceilMode then span + stride - 1 else span) stride) + 1
  -- Rounding up may leave a last window that starts behind the input.
  let count := if ceilMode && input + padding ≤ (count - 1) * stride then count - 1 else count
  if count ≤ 0 then invalid "Pooling output size is too small" else .ok count.toNat

/-- The positions inside a dimension that a window shows. -/
def WindowMotion.positions (motion : WindowMotion) (window size : Nat) : List Nat :=
  (List.range motion.kernel).filterMap fun k =>
    let position :=
      toWord (signed (window * motion.stride + k * motion.dilation) - signed motion.padding)
    if position < 0 ∨ signed size ≤ position then none else some position.toNat

/-! ## Planes -/

/-- A stack of planes: the sizes of the stack, and those of each plane. -/
structure Planes where
  stack : Sizes
  height : Nat
  width : Nat
  deriving DecidableEq, Repr

/-- An input as a stack of planes.  It has one or two dimensions in front of each plane; of its last
three dimensions, those from `nonemptyFrom` on must not be empty. -/
def Planes.ofSizes (sizes : Sizes) (nonemptyFrom : Nat) : OpResult Planes :=
  let fromStack (stack : Sizes) (height width : Nat) : OpResult Planes :=
    if (sizes.drop (sizes.length - 3 + nonemptyFrom)).contains 0 then
      incompatible "Pooling input has an empty non-batch dim"
    else .ok { stack, height, width }
  match sizes with
  | [c, h, w] => fromStack [c] h w
  | [n, c, h, w] => fromStack [n, c] h w
  | _ => invalid "Pooling input must be 3D or 4D"

/-- The element of a plane at a row and column. -/
def Planes.at? (planes : Planes) (data : Array α) (plane row column : Nat) : OpResult α :=
  Checked.fetch data (plane * (planes.height * planes.width) + row * planes.width + column)

/-- The tensor of `rows × columns` values per plane that are computed from the number of the plane,
the row and the column. -/
def Planes.build (planes : Planes) (rows columns : Nat)
    (entry : Nat → Nat → Nat → OpResult α) : OpResult (Tensor α) :=
  Tensor.ofOffsets (planes.stack ++ [rows, columns]) fun offset =>
    entry (offset / (rows * columns)) (offset / columns % rows) (offset % columns)

/-! ## Maxima -/

/-- The greatest entry and its position in the plane, after one more entry.  What is not a number
wins over everything before it. -/
def takeGreater (best entry : Float32 × Nat) : Float32 × Nat :=
  if entry.1 > best.1 || entry.1.isNaN then entry else best

/-- The greatest element that a window shows, and its position in the plane. -/
def windowMax (planes : Planes) (data : Array Float32) (window : PlaneWindow)
    (plane row column : Nat) : OpResult (Float32 × Nat) := do
  let rows := window.down.positions row planes.height
  let columns := window.across.positions column planes.width
  let entries ← rows.mapM fun y => columns.mapM fun x => do
    .ok (← planes.at? data plane y x, y * planes.width + x)
  .ok (entries.flatten.foldl takeGreater (-Single.infinity, 0))

/-- The greatest element of each window, and its position in the plane. -/
def maxPool (input : Tensor Float32) (window : PlaneWindow) :
    OpResult (Tensor Float32 × Tensor Int) := do
  let planes ← Planes.ofSizes input.sizes 0
  let rows ← window.down.count window.ceilMode planes.height
  let columns ← window.across.count window.ceilMode planes.width
  let best ← planes.build rows columns (windowMax planes input.data window)
  .ok (best.map Prod.fst, best.map fun entry => wrapInt entry.2)

/-- The window of a call. -/
def windowArg (args : TensorArgs) : OpResult PlaneWindow := do
  let kernel ← args.ints "kernel_size"
  let stride ← args.ints "stride"
  let padding ← args.ints "padding"
  let dilation ← args.ints "dilation"
  PlaneWindow.ofLists kernel stride padding dilation (← args.bool "ceil_mode")

/-- The greatest element of each window. -/
def maxPoolOf : Operator := fun args => do
  let input ← floatArg args "self"
  let (values, _) ← maxPool input (← windowArg args)
  one values

/-- The greatest element of each window, and its position. -/
def maxPoolWithPositionsOf : Operator := fun args => do
  let input ← floatArg args "self"
  let (values, positions) ← maxPool input (← windowArg args)
  many [.float values, .int positions]

/-- The offset in the input of a position that belongs to an element of the answer. -/
def planeOffset (planes : Planes) (outLength offset : Nat) (position : Int) : OpResult Nat := do
  let plane ← Checked.div offset outLength
  let length := planes.height * planes.width
  if position < 0 ∨ (length : Int) ≤ position then
    invalid "Pooling index is out of bounds"
  else .ok (plane * length + position.toNat)

/-- Add each incoming slope to the position that its window took its value from. -/
def maxPoolBackwardOf : Operator := fun args => do
  let input ← floatArg args "self"
  let grad ← floatArg args "grad_output"
  let positions ← intArg args "indices"
  let (output, _) ← maxPool input (← windowArg args)
  if grad.sizes ≠ output.sizes ∨ positions.sizes ≠ output.sizes then
    incompatible "Gradient and indices must have the shape of the pooling output"
  else
    let planes ← Planes.ofSizes input.sizes 0
    let outLength := elementCount (output.sizes.drop (output.sizes.length - 2))
    let entries ← (grad.data.zip positions.data).toList.zipIdx.mapM fun entry => do
      .ok (← planeOffset planes outLength entry.2 entry.1.2, entry.1.1)
    let blank := Array.replicate (elementCount input.sizes) 0.0
    one (← Tensor.ofData input.sizes (← writeAll (· + ·) blank entries))

/-! ## Means -/

/-- A range of positions along one dimension: what a window covers with the padding, and what it
shows of the input. -/
structure Extent where
  covered : Int
  start : Int
  stop : Int

/-- The positions inside the input. -/
def Extent.positions (extent : Extent) : List Nat :=
  (List.range (extent.stop - extent.start).toNat).map fun i => extent.start.toNat + i

/-- What a window covers along one dimension, as words. -/
def WindowMotion.extent (motion : WindowMotion) (window size : Nat) : Extent :=
  let padding := signed motion.padding
  let start := toWord ((window : Int) * signed motion.stride - padding)
  let stop := min (toWord (start + signed motion.kernel)) (toWord (signed size + padding))
  { covered := toWord (stop - start), start := max start 0, stop := min stop (signed size) }

/-- The sum of the elements at some rows and columns of a plane. -/
def planeSum [Scalar α] (planes : Planes) (data : Array α) (plane : Nat)
    (rows columns : List Nat) : OpResult α := do
  let terms ← rows.mapM fun y => columns.mapM fun x => planes.at? data plane y x
  .ok (Scalar.accumulate terms.flatten)

/-- The number that the sum of a window is divided by: one that is given, or the product of two
lengths as a word. -/
def meanDivisor (fixed : Option Int) (withPadding : Bool) (down across : Extent) : Int :=
  match fixed with
  | some divisor => divisor
  | none =>
    if withPadding then toWord (down.covered * across.covered)
    else toWord ((down.stop - down.start) * (across.stop - across.start))

/-- The mean of each window. -/
def avgPool (input : Tensor Float32) (window : PlaneWindow) (withPadding : Bool)
    (fixed : Option Int) : OpResult (Tensor Float32) := do
  let planes ← Planes.ofSizes input.sizes 0
  let rows ← window.down.count window.ceilMode planes.height
  let columns ← window.across.count window.ceilMode planes.width
  planes.build rows columns fun plane row column => do
    let down := window.down.extent row planes.height
    let across := window.across.extent column planes.width
    let sum ← planeSum planes input.data plane down.positions across.positions
    .ok (sum / Float32.ofInt (meanDivisor fixed withPadding down across))

/-- The mean of each window. -/
def avgPoolOf : Operator := fun args => do
  let input ← floatArg args "self"
  let kernel ← args.ints "kernel_size"
  let stride ← args.ints "stride"
  let padding ← args.ints "padding"
  let window ← PlaneWindow.ofLists kernel stride padding [1] (← args.bool "ceil_mode")
  let withPadding ← args.bool "count_include_pad"
  let fixed ← args.optInt "divisor_override"
  if fixed = some 0 then
    invalid "Divisor must not be zero"
  else
    one (← avgPool input window withPadding fixed)

/-- The range of positions that makes up position `i` of an output of `out` positions: from the
`i`-th `out`-th of the input, rounded down, to the next one, rounded up. -/
def adaptiveRange (i size out : Nat) : OpResult (List Nat) := do
  let start ← Checked.div (i * size) out
  let stop ← Checked.div ((i + 1) * size + (out - 1)) out
  .ok ((List.range (stop - start)).map fun k => start + k)

/-- The means of as many windows as the answer has rows and columns. -/
def adaptiveAvgPool (input : Tensor Float32) (rows columns : Nat) :
    OpResult (Tensor Float32) := do
  let planes ← Planes.ofSizes input.sizes 1
  planes.build rows columns fun plane row column => do
    let down ← adaptiveRange row planes.height rows
    let across ← adaptiveRange column planes.width columns
    let sum ← planeSum planes input.data plane down across
    .ok (sum / Single.ofCount (down.length * across.length))

/-- The means of as many windows as a call asks for. -/
def adaptiveAvgPoolOf : Operator := fun args => do
  let input ← floatArg args "self"
  match ← args.ints "output_size" with
  | [rows, columns] =>
    if rows < 0 ∨ columns < 0 then invalid "Output size must be non-negative"
    else one (← adaptiveAvgPool input rows.toNat columns.toNat)
  | _ => invalid "Output size must have 2 values"

/-! ## Names -/

/-- The operators that pool. -/
def poolTable : List (String × Operator) := [
  ("aten::max_pool2d", maxPoolOf),
  ("aten::max_pool2d_with_indices", maxPoolWithPositionsOf),
  ("aten::max_pool2d_with_indices_backward", maxPoolBackwardOf),
  ("aten::avg_pool2d", avgPoolOf),
  ("aten::adaptive_avg_pool2d", adaptiveAvgPoolOf)
]

end OpShape.Operator
