/-
# `OpShape.Builtin.Library` — all built-in shape functions.
-/
import OpShape.Builtin.Backward
import OpShape.Builtin.Broadcast
import OpShape.Builtin.Conv
import OpShape.Builtin.Convert
import OpShape.Builtin.Creation
import OpShape.Builtin.InPlace
import OpShape.Builtin.Index
import OpShape.Builtin.Layout
import OpShape.Builtin.Loss
import OpShape.Builtin.Matmul
import OpShape.Builtin.Norm
import OpShape.Builtin.Pad
import OpShape.Builtin.Pool
import OpShape.Builtin.Reduce
import OpShape.Builtin.Scalar
import OpShape.Builtin.Softmax
import OpShape.Builtin.Unary

namespace OpShape

/-- The built-in shape functions, family by family. -/
def Builtin.functions : List ShapeFunction :=
  unaryFamily ++ backwardFamily ++ convertFamily ++ scalarFamily ++ broadcastFamily ++
    reduceFamily ++ matmulFamily ++ layoutFamily ++ creationFamily ++ indexFamily ++ padFamily ++
    inPlaceFamily ++ convFamily ++ poolFamily ++ softmaxFamily ++ normFamily ++ lossFamily

/-- The library that holds every built-in shape function. -/
def ShapeLibrary.builtin : Except LibraryError ShapeLibrary :=
  empty.insertAll Builtin.functions

end OpShape
