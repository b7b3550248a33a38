/-
# `OpShape.Builtin.Matmul` — shape functions of matrix products.
-/
import OpShape.Builtin.Entry
import OpShape.Rule.Matmul

namespace OpShape.Builtin

open Rule

/-! ## Shapes -/

/-- The shape of a product of `self` and another argument. -/
def productOf (rule : Sizes → Sizes → ShapeResult Sizes) (other : String) (args : ShapeArgs) :
    ShapeResult Sizes := do
  let a ← args.tensor "self"
  let b ← args.tensor other
  rule a b

/-- The shape of a matrix that is added to a product. -/
def addedProduct (args : ShapeArgs) : ShapeResult Sizes := do
  let input ← args.tensor "self"
  let a ← args.tensor "mat1"
  let b ← args.tensor "mat2"
  addmm input a b

/-- The shape of a linear layer. -/
def linearLayer (args : ShapeArgs) : ShapeResult Sizes := do
  let bias ← args.optTensor "bias"
  let input ← args.tensor "input"
  let weight ← args.tensor "weight"
  linear input weight bias

/-! ## Entries -/

/-- Matrix products. -/
def matmulFamily : List ShapeFunction := [
  entry (aten "matmul")
    [param "self" .tensor, param "other" .tensor] 1
    (one (productOf matmul "other")) [
      .ok [floats [3], floats [3]],
      .ok [floats [2, 3], floats [3]],
      .ok [floats [3], floats [3, 4]],
      .ok [floats [2, 3], floats [3, 4]],
      .ok [floats [5, 2, 3], floats [3, 4]],
      .ok [floats [5, 1, 2, 3], floats [6, 3, 4]],
      .ok [floats [5, 2, 3], floats [3]],
      .ok [floats [3], floats [5, 3, 4]],
      .fails [floats [2, 3], floats [4, 5]],
      .fails [floats [2, 2, 3], floats [3, 3, 4]],
      .fails [floats [], floats [3]]],
  entry (aten "mm")
    [param "self" .tensor, param "mat2" .tensor] 1
    (one (productOf mm "mat2")) [
      .ok [floats [2, 3], floats [3, 4]],
      .ok [floats [0, 3], floats [3, 4]],
      .fails [floats [2, 3], floats [4, 5]],
      .fails [floats [3], floats [3, 4]]],
  entry (aten "bmm")
    [param "self" .tensor, param "mat2" .tensor] 1
    (one (productOf bmm "mat2")) [
      .ok [floats [5, 2, 3], floats [5, 3, 4]],
      .ok [floats [0, 2, 3], floats [0, 3, 4]],
      .fails [floats [5, 2, 3], floats [4, 3, 4]],
      .fails [floats [5, 2, 3], floats [5, 4, 4]],
      .fails [floats [2, 3], floats [3, 4]],
      .fails [floats [7, 3], floats [2, 4, 5]],
      .fails [floats [2, 3, 4], floats [2, 4]]],
  entry (aten "addmm")
    [param "self" .tensor, param "mat1" .tensor, param "mat2" .tensor,
     paramOr "beta" .float (.float 1.0), paramOr "alpha" .float (.float 1.0)] 1
    (one addedProduct) [
      .ok [floats [2, 4], floats [2, 3], floats [3, 4]],
      .ok [floats [4], floats [2, 3], floats [3, 4]] [("beta", .float 0.5)],
      .ok [floats [], floats [2, 3], floats [3, 4]],
      .fails [floats [3, 4], floats [2, 3], floats [3, 4]],
      .fails [floats [2, 4], floats [2, 3], floats [2, 4]]],
  entry (aten "linear")
    [param "input" .tensor, param "weight" .tensor, paramOr "bias" .optTensor .none] 1
    (one linearLayer) [
      .ok [floats [2, 3], floats [4, 3]],
      .ok [floats [2, 3], floats [4, 3], floats [4]],
      .ok [floats [5, 2, 3], floats [4, 3], .none],
      .ok [floats [3], floats [4, 3]],
      .fails [floats [2, 3], floats [4, 5]],
      .fails [floats [2, 3], floats [4, 3], floats [5]]]]

end OpShape.Builtin
