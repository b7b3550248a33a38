/-
# `OpShape.Operator.Args` — arguments of operators.

Tensors are taken as floats or as integers, whatever they hold.  Axes and indices may be counted
from the end; a scalar accepts the axes of a vector.
-/
import OpShape.Operator.Error
import OpShape.Tensor.Scalar

namespace OpShape.Operator

/-! ## Tensors -/

/-- The elements as integers, without their fractions. -/
def toInts : RealTensor → Tensor Int
  | .float tensor => tensor.map Single.toInt
  | .int tensor => tensor

/-- A number as an element of a tensor of integers, which has thirty-two bits: beyond the greatest
one the least one follows. -/
def wrapInt (value : Int) : Int :=
  value.bmod (Nat.pow 2 32)

/-- A tensor as floats. -/
def floatArg (args : TensorArgs) (name : String) : OpResult (Tensor Float32) := do
  .ok (← args.tensor name).toFloats

/-- A tensor as floats, if there is one. -/
def optFloatArg (args : TensorArgs) (name : String) : OpResult (Option (Tensor Float32)) := do
  .ok ((← args.optTensor name).map RealTensor.toFloats)

/-- A tensor as integers. -/
def intArg (args : TensorArgs) (name : String) : OpResult (Tensor Int) := do
  .ok (toInts (← args.tensor name))

/-- A number as a 32-bit float. -/
def singleArg (args : TensorArgs) (name : String) : OpResult Float32 := do
  .ok (← args.float name).toFloat32

/-- Does the code of an element type stand for integers or truth values? -/
def isIntType (code : Int) : Bool :=
  (0 ≤ code && code ≤ 4) || code == 11

/-! ## Axes, indices and sizes -/

/-- The dimension that an axis names in a tensor with `rank` dimensions. -/
def resolveAxis (rank : Nat) (axis : Int) : OpResult Nat :=
  let span : Int := if rank = 0 then 1 else rank
  if axis < -span ∨ span ≤ axis then invalid "Axis is invalid"
  else if axis < 0 then .ok (axis + span).toNat
  else .ok axis.toNat

/-- Add the dimension that an axis names to those named before. -/
def addAxis (rank : Nat) (resolved : List Nat) (axis : Int) : OpResult (List Nat) := do
  let axis ← resolveAxis rank axis
  if resolved.contains axis then invalid "Axes contain duplicates"
  else .ok (resolved ++ [axis])

/-- The dimensions that a list of axes names, each of them once. -/
def resolveAxes (rank : Nat) (axes : List Int) : OpResult (List Nat) :=
  axes.foldlM (addAxis rank) []

/-- The position that an index names among `size` ones. -/
def resolveIndex (index : Int) (size : Nat) : OpResult Nat :=
  let span := signed size
  if index < -span ∨ span ≤ index then invalid "Index is out of bounds"
  else if index < 0 then .ok (index + span).toNat
  else .ok index.toNat

/-- The size that a number stands for. -/
def toSize (size : Int) : OpResult Nat :=
  if size < 0 then invalid "Size is negative" else .ok size.toNat

/-- The sizes that a list of numbers stands for. -/
def toSizes (sizes : List Int) : OpResult Sizes :=
  sizes.mapM toSize

end OpShape.Operator
