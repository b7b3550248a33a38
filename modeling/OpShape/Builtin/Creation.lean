/-
# `OpShape.Builtin.Creation` — shape functions of new tensors.

Tensors of given sizes, tensors of the shape of another one, ranges of numbers and single values.
-/
import OpShape.Builtin.Entry

namespace OpShape.Builtin

open Rule

/-! ## Shapes -/

/-- The shape of given sizes. -/
def givenSizes (args : ShapeArgs) : ShapeResult Sizes := do
  sizesToShape (← args.ints "size")

/-- The shape of a single value. -/
def singleValue (_ : ShapeArgs) : ShapeResult Sizes :=
  .ok []

/-- How many numbers there are from `start` on, in steps, before `stop` is reached. -/
def rangeLength (start stop step : Float) : ShapeResult Nat :=
  if step == 0.0 then
    invalid "step must be nonzero"
  else if !start.isFinite || !stop.isFinite then
    invalid "unsupported range"
  else if (0.0 < step ∧ stop < start) ∨ (step < 0.0 ∧ start < stop) then
    invalid "upper bound and larger bound inconsistent with step sign"
  else
    .ok ((stop - start) / step).ceil.toUInt64.toNat

/-- The shape of a range from zero on. -/
def range (args : ShapeArgs) : ShapeResult Sizes := do
  .ok [← rangeLength 0.0 (← args.float "end") 1.0]

/-- The shape of a range with a start. -/
def rangeFrom (args : ShapeArgs) : ShapeResult Sizes := do
  let start ← args.float "start"
  let stop ← args.float "end"
  .ok [← rangeLength start stop 1.0]

/-- The shape of a range with a start and a step. -/
def steppedRange (args : ShapeArgs) : ShapeResult Sizes := do
  let start ← args.float "start"
  let stop ← args.float "end"
  .ok [← rangeLength start stop (← args.float "step")]

/-- The shape of the vector that holds the sizes of a tensor. -/
def sizesVector (args : ShapeArgs) : ShapeResult Sizes := do
  .ok [(← args.tensor "self").length]

/-! ## Entries -/

/-- The invocations of a tensor of given sizes. -/
def sizeInvocations : List Invocation := [
  .ok [ints [2, 3]],
  .ok [ints []],
  .ok [ints [0, 4]],
  .fails [ints [2, -1]]]

/-- The shape function of a tensor of given sizes. -/
def filledEntry (op : OpName) : ShapeFunction :=
  entry op
    [param "size" .intList, paramOr "dtype" .optInt .none, paramOr "layout" .optInt .none,
     paramOr "device" .optDevice .none, paramOr "pin_memory" .optBool .none] 1
    (one givenSizes) sizeInvocations

/-- The shape function of a tensor of the shape of another one. -/
def likeEntry (op : OpName) : ShapeFunction :=
  entry op
    [param "self" .tensor, paramOr "dtype" .optInt .none, paramOr "layout" .optInt .none,
     paramOr "device" .optDevice .none, paramOr "pin_memory" .optBool .none,
     paramOr "memory_format" .optInt .none] 1
    (one selfShape) [
      .ok [floats [2, 3]],
      .ok [longs []],
      .ok [floats [4]] [("dtype", .int 6)]]

/-- The shape function of a tensor of given sizes with elements of the kind of another one. -/
def newEntry (op : OpName) : ShapeFunction :=
  entry op
    [param "self" .tensor, param "size" .intList, paramOr "dtype" .optInt .none,
     paramOr "layout" .optInt .none, paramOr "device" .optDevice .none,
     paramOr "pin_memory" .optBool .none] 1
    (one givenSizes) [
      .ok [floats [5], ints [2, 3]],
      .ok [longs [2, 2], ints []],
      .fails [floats [5], ints [-3]]]

/-- New tensors. -/
def creationFamily : List ShapeFunction := [
  filledEntry (aten "zeros"),
  filledEntry (aten "ones"),
  entry (atenOverload "empty" "memory_format")
    [param "size" .intList, paramOr "dtype" .optInt .none, paramOr "layout" .optInt .none,
     paramOr "device" .optDevice .none, paramOr "pin_memory" .optBool .none,
     paramOr "memory_format" .optInt .none] 1
    (one givenSizes) sizeInvocations,
  entry (aten "full")
    [param "size" .intList, param "fill_value" .float, paramOr "dtype" .optInt .none,
     paramOr "layout" .optInt .none, paramOr "device" .optDevice .none,
     paramOr "pin_memory" .optBool .none] 1
    (one givenSizes) [
      .ok [ints [2, 3], .float 1.5],
      .ok [ints [], .int 2],
      .fails [ints [-1], .int 0],
      .fails [ints [2, 3]]],
  entry (aten "full_like")
    [param "self" .tensor, param "fill_value" .float, paramOr "dtype" .optInt .none,
     paramOr "layout" .optInt .none, paramOr "device" .optDevice .none,
     paramOr "pin_memory" .optBool .none, paramOr "memory_format" .optInt .none] 1
    (one selfShape) [
      .ok [floats [2, 3], .float 1.5],
      .ok [flags [4], .int 0]],
  likeEntry (aten "zeros_like"),
  likeEntry (aten "ones_like"),
  likeEntry (aten "empty_like"),
  likeEntry (aten "rand_like"),
  newEntry (aten "new_zeros"),
  newEntry (aten "new_ones"),
  newEntry (aten "new_empty"),
  entry (atenOverload "arange" "start_step")
    [param "start" .float, param "end" .float, param "step" .float, paramOr "dtype" .optInt .none,
     paramOr "layout" .optInt .none, paramOr "device" .optDevice .none,
     paramOr "pin_memory" .optBool .none] 1
    (one steppedRange) [
      .ok [.int 0, .int 10, .int 3],
      .ok [.int 1, .float 2.5, .float 0.5],
      .ok [.int 10, .int 0, .int (-2)],
      .ok [.int 1, .int 1, .int 1],
      .fails [.int 0, .int 10, .int 0],
      .fails [.int 0, .int 10, .int (-1)]],
  entry (atenOverload "arange" "start")
    [param "start" .float, param "end" .float, paramOr "dtype" .optInt .none,
     paramOr "layout" .optInt .none, paramOr "device" .optDevice .none,
     paramOr "pin_memory" .optBool .none] 1
    (one rangeFrom) [
      .ok [.int 2, .int 5],
      .ok [.float (-1.5), .int 1],
      .fails [.int 5, .int 2]],
  entry (aten "arange")
    [param "end" .float, paramOr "dtype" .optInt .none, paramOr "layout" .optInt .none,
     paramOr "device" .optDevice .none, paramOr "pin_memory" .optBool .none] 1
    (one range) [
      .ok [.int 5],
      .ok [.int 0],
      .ok [.float 2.5] [("dtype", .int 6)],
      .fails [.int (-1)]],
  entry (atenOverload "tensor" "float")
    [param "t" .float, paramOr "dtype" .optInt .none, paramOr "device" .optDevice .none,
     paramOr "requires_grad" .bool (.bool false)] 1
    (one singleValue) [
      .ok [.float 1.5]],
  entry (atenOverload "tensor" "int")
    [param "t" .int, paramOr "dtype" .optInt .none, paramOr "device" .optDevice .none,
     paramOr "requires_grad" .bool (.bool false)] 1
    (one singleValue) [
      .ok [.int 3]],
  entry (atenOverload "tensor" "bool")
    [param "t" .bool, paramOr "dtype" .optInt .none, paramOr "device" .optDevice .none,
     paramOr "requires_grad" .bool (.bool false)] 1
    (one singleValue) [
      .ok [.bool true]],
  entry (aten "_shape_as_tensor")
    [param "self" .tensor] 1
    (one sizesVector) [
      .ok [floats [2, 3]],
      .ok [floats []],
      .ok [floats [0, 1, 2, 3]]],
  entry { scope := "prim", name := "NumToTensor", overload := some "Scalar" }
    [param "a" .float] 1
    (one singleValue) [
      .ok [.int 2],
      .ok [.float 0.5]]]

end OpShape.Builtin
