/-
# `OpShape.Rule.Basic` — dimensions, indices and sizes.

A dimension or an index may be given from the end, as a negative number.  A scalar has no dimension,
yet it accepts the numbers that a vector accepts.
-/
import OpShape.Rule.Error
import OpShape.Shape

namespace OpShape.Rule

/-- The dimension that a number names in a tensor of a rank, counted from the first. -/
def resolveDim (dim : Int) (rank : Nat) : ShapeResult Nat :=
  let bound : Int := max rank 1
  if dim < -bound ∨ bound ≤ dim then Checked.refuse (.dimOutOfRange dim rank)
  else .ok (if dim < 0 then dim + bound else dim).toNat

/-- The position that an index names in a dimension of a size. -/
def resolveIndex (index : Int) (size : Nat) : ShapeResult Nat :=
  let bound := signed size
  if index < -bound ∨ bound ≤ index then Checked.refuse (.indexOutOfRange index size)
  else .ok (if index < 0 then index + bound else index).toNat

/-- The shape with the given sizes, none of which may be negative. -/
def sizesToShape (sizes : List Int) : ShapeResult Sizes :=
  sizes.mapM fun size =>
    if size < 0 then invalid "negative dimension size" else .ok size.toNat

/-- The shape of an operator that works on each element by itself. -/
def unary (shape : Sizes) : Sizes :=
  shape

/-- The sizes of an output, none of which may be left open. -/
def concrete (shape : Shape) : ShapeResult Sizes :=
  shape.dims.mapM fun
    | .fixed size => .ok size
    | .unknown _ => Checked.refuse .unknownDim

end OpShape.Rule
