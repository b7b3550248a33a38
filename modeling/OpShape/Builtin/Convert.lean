/-
# `OpShape.Builtin.Convert` — shape functions of conversions and copies.

A tensor with elements of another kind, in another place or in another order of memory has the same
shape.
-/
import OpShape.Builtin.Entry

namespace OpShape.Builtin

/-- Conversions and copies. -/
def convertFamily : List ShapeFunction := [
  entry (atenOverload "to" "dtype")
    [param "self" .tensor, param "dtype" .int, paramOr "non_blocking" .bool (.bool false),
     paramOr "copy" .bool (.bool false), paramOr "memory_format" .optInt .none] 1
    (one selfShape) [
      .ok [floats [2, 3], .int 4],
      .ok [floats [], .int 6] [("copy", .bool true)]],
  entry (atenOverload "to" "dtype_layout")
    [param "self" .tensor, paramOr "dtype" .optInt .none, paramOr "layout" .optInt .none,
     paramOr "device" .optDevice .none, paramOr "pin_memory" .optBool .none,
     paramOr "non_blocking" .bool (.bool false), paramOr "copy" .bool (.bool false),
     paramOr "memory_format" .optInt .none] 1
    (one selfShape) [
      .ok [floats [2, 3]] [("dtype", .int 6)]],
  entry (atenOverload "to" "other")
    [param "self" .tensor, param "other" .tensor, paramOr "non_blocking" .bool (.bool false),
     paramOr "copy" .bool (.bool false), paramOr "memory_format" .optInt .none] 1
    (one selfShape) [
      .ok [floats [2, 3], floats [5]],
      .ok [floats [2, 3], flags []]],
  entry (aten "_to_copy")
    [param "self" .tensor, paramOr "dtype" .optInt .none, paramOr "layout" .optInt .none,
     paramOr "device" .optDevice .none, paramOr "pin_memory" .optBool .none,
     paramOr "non_blocking" .bool (.bool false), paramOr "memory_format" .optInt .none] 1
    (one selfShape) [
      .ok [floats [2, 3]],
      .ok [floats [4]] [("dtype", .int 4)]],
  entry (aten "type_as")
    [param "self" .tensor, param "other" .tensor] 1
    (one selfShape) [
      .ok [floats [2, 3], floats [1]]],
  entry (aten "contiguous")
    [param "self" .tensor, paramOr "memory_format" .int (.int 0)] 1
    (one selfShape) [
      .ok [floats [2, 3]]],
  entry (aten "clone")
    [param "self" .tensor, paramOr "memory_format" .optInt .none] 1
    (one selfShape) [
      .ok [floats [2, 3]],
      .ok [floats []]]]

end OpShape.Builtin
