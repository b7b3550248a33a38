/-
# `OpShape.Builtin.Unary` — shape functions of one tensor.

Activations and other functions of single elements.  The output has the shape of the input; what
there is to check are the other parameters.
-/
import OpShape.Builtin.Entry

namespace OpShape.Builtin

open Rule

/-! ## Shapes -/

/-- Refuse a name for an approximation that is not known. -/
def checkApproximate (args : ShapeArgs) : ShapeResult Unit := do
  match ← args.str "approximate" with
  | "none" | "tanh" => .ok ()
  | _ => invalid "approximate must be \"none\" or \"tanh\""

/-- The shape of `gelu`, which is computed exactly or approximately. -/
def gelu (args : ShapeArgs) : ShapeResult Sizes := do
  checkApproximate args
  selfShape args

/-- Is there a bound of this name? -/
def hasBound (args : ShapeArgs) (name : String) : ShapeResult Bool := do
  .ok (← args.optFloat name).isSome

/-- The shape of `clamp`, which needs a bound on at least one side. -/
def clamp (args : ShapeArgs) : ShapeResult Sizes := do
  let bounded ← if ← hasBound args "min" then pure true else hasBound args "max"
  if bounded then selfShape args
  else invalid "at least one of min or max must not be None"

/-- The shape of `dropout`, whose probability must be one. -/
def dropout (args : ShapeArgs) : ShapeResult Sizes := do
  let p : Float ← args.float "p"
  if 0.0 ≤ p ∧ p ≤ 1.0 then .ok (Rule.unary (← args.tensor "input"))
  else invalid "dropout probability has to be between 0 and 1"

/-! ## Entries -/

/-- The operators of one tensor without other parameters. -/
def plainOps : List OpName := [
  aten "tanh", aten "erf", aten "sigmoid", aten "hardsigmoid", aten "square", aten "hardswish",
  aten "silu", aten "exp", aten "sin", aten "cos", aten "sqrt", aten "neg", aten "floor",
  aten "detach", aten "log2", aten "rsqrt", aten "abs", aten "reciprocal", aten "ceil", aten "log",
  aten "relu", atenOverload "zero" "functional"]

/-- The invocations of the operators without other parameters. -/
def plainInvocations : List Invocation := [
  .ok [floats []],
  .ok [floats [2, 3]],
  .ok [floats [0, 4]]]

/-- Functions of one tensor. -/
def unaryFamily : List ShapeFunction :=
  (plainOps.map fun op =>
    entry op [param "self" .tensor] 1 (one selfShape) plainInvocations) ++ [
  entry (aten "hardtanh")
    [param "self" .tensor, paramOr "min_val" .float (.float (-1.0)),
     paramOr "max_val" .float (.float 1.0)] 1
    (one selfShape) [
      .ok [floats [2, 3]],
      .ok [floats [2, 3], .float 0.0, .float 6.0]],
  entry (aten "gelu")
    [param "self" .tensor, paramOr "approximate" .str (.str "none")] 1
    (one gelu) [
      .ok [floats [2, 3]],
      .ok [floats [4]] [("approximate", .str "tanh")],
      .fails [floats [4]] [("approximate", .str "fast")]],
  entry (aten "leaky_relu")
    [param "self" .tensor, paramOr "negative_slope" .float (.float 0.01)] 1
    (one selfShape) [
      .ok [floats [2, 3]],
      .ok [floats [5], .float 0.2]],
  entry (aten "clamp")
    [param "self" .tensor, paramOr "min" .optFloat .none, paramOr "max" .optFloat .none] 1
    (one clamp) [
      .ok [floats [2, 3], .float 0.0],
      .ok [floats [2, 3]] [("max", .int 1)],
      .ok [floats [], .float (-1.0), .float 1.0],
      .fails [floats [2, 3]]],
  entry (aten "threshold")
    [param "self" .tensor, param "threshold" .float, param "value" .float] 1
    (one selfShape) [
      .ok [floats [2, 3], .float 0.5, .float 0.0],
      .fails [floats [2, 3], .float 0.5]],
  entry (aten "dropout")
    [param "input" .tensor, param "p" .float, param "train" .bool] 1
    (one dropout) [
      .ok [floats [2, 3], .float 0.5, .bool false],
      .ok [floats [8], .float 0.0, .bool true],
      .fails [floats [2], .float 1.5, .bool true]],
  entry (aten "bernoulli")
    [param "self" .tensor, paramOr "generator" .any .none] 1
    (one selfShape) [
      .ok [floats [2, 3]]]]

end OpShape.Builtin
