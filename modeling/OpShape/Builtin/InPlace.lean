/-
# `OpShape.Builtin.InPlace` — shape functions of updates in place.

An update returns the tensor that it changes.  The registered schemas of these operators differ from
what can be declared here, so they are kept out of the comparison with a registry.
-/
import OpShape.Builtin.Index

namespace OpShape.Builtin

/-- Updates in place. -/
def inPlaceFamily : List ShapeFunction :=
  [
  entry (aten "zero")
    [param "self" .tensor] 1
    (one selfShape) [],
  entry (atenOverload "fill" "Scalar")
    [param "self" .tensor, param "value" .float] 1
    (one selfShape) [],
  entry (aten "copy")
    [param "self" .tensor, param "src" .tensor, paramOr "non_blocking" .bool (.bool false)] 1
    (one selfShape) [],
  entry (aten "uniform")
    [param "self" .tensor, paramOr "from" .float (.float 0.0), paramOr "to" .float (.float 1.0),
     paramOr "generator" .any .none] 1
    (one selfShape) [],
  entry (atenOverload "bernoulli" "float")
    [param "self" .tensor, paramOr "p" .float (.float 0.5), paramOr "generator" .any .none] 1
    (one selfShape) [],
  entry (atenOverload "bernoulli" "Tensor")
    [param "self" .tensor, param "p" .tensor, paramOr "generator" .any .none] 1
    (one selfShape) [],
  entry (aten "_index_put_impl")
    [param "self" .tensor, param "indices" .optTensorList, param "values" .tensor,
     paramOr "accumulate" .bool (.bool false), paramOr "unsafe" .bool (.bool false)] 1
    (one indexPut) []].map ShapeFunction.markExempt

end OpShape.Builtin
