/-
# `OpShape.Builtin.Scalar` — shape functions of a tensor and a number.

The number takes part in the computation of each element, so that the shape stays the same.
-/
import OpShape.Builtin.Entry

namespace OpShape.Builtin

/-- Comparisons and arithmetic with a number. -/
def scalarOps : List OpName :=
  ["eq", "ne", "gt", "ge", "le", "lt", "mul", "div", "floor_divide"].map fun name =>
    atenOverload name "Scalar"

/-- Arithmetic with a number that is scaled first. -/
def scaledScalarOps : List OpName :=
  ["add", "sub", "rsub"].map fun name => atenOverload name "Scalar"

/-- The shape function of a comparison or of arithmetic with a number. -/
def scalarEntry (op : OpName) : ShapeFunction :=
  entry op
    [param "self" .tensor, param "other" .float] 1
    (one selfShape) [
      .ok [floats [2, 3], .int 2],
      .ok [floats [], .float 0.5]]

/-- The shape function of arithmetic with a number that is scaled first. -/
def scaledScalarEntry (op : OpName) : ShapeFunction :=
  entry op
    [param "self" .tensor, param "other" .float, paramOr "alpha" .float (.float 1.0)] 1
    (one selfShape) [
      .ok [floats [2, 3], .int 2],
      .ok [floats [4], .float 1.5] [("alpha", .int 2)]]

/-- Functions of a tensor and a number. -/
def scalarFamily : List ShapeFunction :=
  scalarOps.map scalarEntry ++ scaledScalarOps.map scaledScalarEntry ++ [
  entry (atenOverload "pow" "Tensor_Scalar")
    [param "self" .tensor, param "exponent" .float] 1
    (one selfShape) [
      .ok [floats [2, 3], .int 2],
      .ok [floats [], .float 0.5]]]

end OpShape.Builtin
