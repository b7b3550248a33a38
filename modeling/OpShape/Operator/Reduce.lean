/-
# `OpShape.Operator.Reduce` — operators that put one value in the place of many.

A reduction looks at each group of elements along some axes by itself.  Sums are taken in row-major
order.  Where a group without elements has no answer, the operator refuses.
-/
import OpShape.Operator.Args
import OpShape.Tensor.Group

namespace OpShape.Operator

/-! ## Axes -/

/-- The axes of a list; all of them if the list is empty, and none of a scalar. -/
def reductionAxes (rank : Nat) (dims : List Int) : OpResult (List Nat) :=
  if dims.isEmpty then .ok (List.range rank)
  else if rank = 0 then do
    let _ ← dims.mapM (resolveAxis rank)
    .ok []
  else resolveAxes rank dims

/-- Refuse if an axis has no positions. -/
def requirePositions (sizes : Sizes) (axis : Nat) : OpResult Unit :=
  if sizes[axis]? = some 0 then
    invalid "Cannot reduce over empty dimension without an identity"
  else .ok ()

/-! ## Values of a group -/

/-- The mean, which is not a number for no elements. -/
def mean (xs : List Float32) : Float32 :=
  Scalar.sum xs / Single.ofCount xs.length

/-- The mean square distance from the mean; `unbiased` divides by one less than the count. -/
def variance (unbiased : Bool) (xs : List Float32) : Float32 :=
  let center := mean xs
  let squares := Scalar.sum (xs.map fun x => (x - center) * (x - center))
  squares / (Single.ofCount xs.length - if unbiased then 1.0 else 0.0)

/-- Search on for a greater element than the one found so far.  The first element that is not a
number ends the search. -/
def searchMax (best : Float32) (found position : Nat) : List Float32 → Nat
  | [] => found
  | x :: xs =>
    if x.isNaN then position
    else if x > best then searchMax x position (position + 1) xs
    else searchMax best found (position + 1) xs

/-- The position of the first greatest element, or of the first one that is not a number. -/
def argmax : List Float32 → Int
  | [] => 0
  | x :: xs => if x.isNaN then 0 else wrapInt (searchMax x 0 1 xs)

/-- Is some element other than zero? -/
def anyNonzero (xs : List Float32) : Int :=
  Single.flag (xs.any fun x => x != 0.0)

/-- Are all elements other than zero? -/
def allNonzero (xs : List Float32) : Int :=
  Single.flag (xs.all fun x => x != 0.0)

/-- The norm of an order: the greatest size for infinity, the number of elements other than zero for
zero, and else the root of the sum of powers. -/
def vectorNorm (order : Float32) (xs : List Float32) : Float32 :=
  if order == Single.infinity then
    xs.foldl (fun best x => Single.max best (Float32.abs x)) 0.0
  else if order == 0.0 then Single.ofCount (xs.filter fun x => x != 0.0).length
  else (Scalar.sum (xs.map fun x => (Float32.abs x).pow order)).pow (1.0 / order)

/-! ## Operators -/

/-- All axes of a tensor. -/
def allAxes (tensor : Tensor Float32) : List Nat :=
  List.range tensor.sizes.length

/-- Reduce all elements to a float. -/
def reduceAll (f : List Float32 → Float32) : Operator := fun args => do
  let input ← floatArg args "self"
  one (← input.reduce (allAxes input) false f)

/-- Reduce all elements to a truth value. -/
def testAll (f : List Float32 → Int) : Operator := fun args => do
  let input ← floatArg args "self"
  oneInt (← input.reduce (allAxes input) false f)

/-- The greatest of all elements. -/
def maxAll : Operator := fun args => do
  let input ← floatArg args "self"
  if elementCount input.sizes = 0 then
    invalid "Cannot reduce over empty tensor without an identity"
  else
    one (← input.reduce (allAxes input) false Single.maximum)

/-- The variance of all elements, or what `finish` makes of it. -/
def varianceAll (finish : Float32 → Float32) : Operator := fun args => do
  let unbiased ← args.bool "unbiased"
  let input ← floatArg args "self"
  one (← input.reduce (allAxes input) false fun xs => finish (variance unbiased xs))

/-- The position of the greatest element along an axis, or of all elements. -/
def argmaxOf : Operator := fun args => do
  let input ← floatArg args "self"
  let keepDims ← args.bool "keepdim"
  match ← args.optInt "dim" with
  | some dim =>
    let axis ← resolveAxis input.sizes.length dim
    requirePositions input.sizes axis
    oneInt (← input.reduce [axis] keepDims argmax)
  | none =>
    if elementCount input.sizes = 0 then invalid "Cannot compute argmax of empty tensor"
    else oneInt (← input.reduce (allAxes input) keepDims argmax)

/-- Is some element along an axis other than zero? -/
def anyAlong : Operator := fun args => do
  let input ← floatArg args "self"
  let axis ← resolveAxis input.sizes.length (← args.int "dim")
  oneInt (← input.reduce [axis] (← args.bool "keepdim") anyNonzero)

/-- The greatest element along an axis, and its position. -/
def maxAlong : Operator := fun args => do
  let input ← floatArg args "self"
  let axis ← resolveAxis input.sizes.length (← args.int "dim")
  requirePositions input.sizes axis
  let keepDims ← args.bool "keepdim"
  let values ← input.reduce [axis] keepDims Single.maximum
  let positions ← input.reduce [axis] keepDims argmax
  many [.float values, .int positions]

/-- Reduce along a list of axes. -/
def reduceAlong (f : List Float32 → Float32) : Operator := fun args => do
  let input ← floatArg args "self"
  let axes ← reductionAxes input.sizes.length (← args.ints "dim")
  one (← input.reduce axes (← args.bool "keepdim") f)

/-- The norm along a list of axes, or of all elements. -/
def normAlong : Operator := fun args => do
  let input ← floatArg args "self"
  let order ← singleArg args "ord"
  let dims := (← args.optInts "dim").getD []
  let axes ← reductionAxes input.sizes.length dims
  one (← input.reduce axes (← args.bool "keepdim") (vectorNorm order))

/-! ## Counting -/

/-- One more than the greatest of a list of positions. -/
def spanOf (positions : List Nat) : Nat :=
  positions.foldl (fun span position => max span (position + 1)) 0

/-- The sum of the weights of each value below `size`. -/
def tally (size : Nat) (values : List Nat) (weights : List Float32) : List Float32 :=
  let weighted := values.zip weights
  (List.range size).map fun value =>
    Scalar.accumulate ((weighted.filter fun entry => entry.1 == value).map Prod.snd)

/-- How often each integer from zero on occurs in a vector, or the sum of its weights. -/
def bincount : Operator := fun args => do
  let input ← intArg args "self"
  if input.sizes.length ≠ 1 then
    invalid "bincount only supports 1D inputs"
  else
    let least ← args.int "minlength"
    if least < 0 then
      invalid "minlength must be non-negative"
    else
      let weights ← optFloatArg args "weights"
      if weights.any fun weights => weights.sizes != input.sizes then
        incompatible "weights must have the same shape as input"
      else if input.data.any fun x => x < 0 then
        invalid "bincount input must be non-negative"
      else
        let values := input.data.toList.map Int.toNat
        let weights := match weights with
          | some weights => weights.data.toList
          | none => values.map fun _ => 1.0
        one (.vector (tally (max (spanOf values) least.toNat) values weights))

/-! ## Names -/

/-- The operators that put one value in the place of many. -/
def reduceTable : List (String × Operator) := [
  ("aten::any", testAll anyNonzero),
  ("aten::all", testAll allNonzero),
  ("aten::max", maxAll),
  ("aten::sum", reduceAll Scalar.sum),
  ("aten::mean", reduceAll mean),
  ("aten::var", varianceAll id),
  ("aten::std", varianceAll Float32.sqrt),
  ("aten::argmax", argmaxOf),
  ("aten::any.dim", anyAlong),
  ("aten::max.dim", maxAlong),
  ("aten::mean.dim", reduceAlong mean),
  ("aten::sum.dim_IntList", reduceAlong Scalar.sum),
  ("aten::linalg_vector_norm", normAlong),
  ("aten::bincount", bincount)
]

end OpShape.Operator
