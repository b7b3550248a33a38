/-
# `OpShape.Invocation` — example calls and their two readings.

An invocation is a call in which a tensor is described by its sizes and the kind of its elements.
Read for a shape function, each description becomes its sizes; read for an operator, a tensor of
ones.  Keywords are handed to both sides as they are, so none of them may hold a tensor.
-/
import OpShape.Call.Arg
import OpShape.Tensor.Basic

namespace OpShape

/-- The kind of a tensor's elements. -/
inductive ElementKind where
  | float32
  | int64
  | bool
  deriving DecidableEq, Repr

/-- The description of a tensor by its sizes and the kind of its elements. -/
structure Placeholder where
  sizes : Sizes
  kind : ElementKind
  deriving DecidableEq, Repr

namespace Placeholder

/-- The tensor of ones that the description stands for. -/
def toTensor (placeholder : Placeholder) : RealTensor :=
  match placeholder.kind with
  | .float32 => .float (.full placeholder.sizes 1.0)
  | .int64 => .int (.full placeholder.sizes 1)
  | .bool => .int (.full placeholder.sizes 1)

/-- The word for a kind of elements. -/
def kindText : ElementKind → String
  | .float32 => "tensor"
  | .int64 => "long_tensor"
  | .bool => "bool_tensor"

/-- The description as it is written. -/
def text (placeholder : Placeholder) : String :=
  kindText placeholder.kind ++ sizesText placeholder.sizes

@[simp] theorem sizes_toTensor (placeholder : Placeholder) :
    placeholder.toTensor.sizes = placeholder.sizes := by
  cases placeholder with
  | mk sizes kind => cases kind <;> rfl

end Placeholder

/-- A call that a shape function is tried on. -/
structure Invocation where
  args : List (Arg Placeholder)
  kwargs : List (String × Arg Placeholder)
  /-- Are both sides meant to fail? -/
  expectError : Bool

/-- A keyword whose argument holds a tensor. -/
structure TensorKeyword where
  name : String
  deriving DecidableEq, Repr

/-- The reason in words. -/
def TensorKeyword.message (reason : TensorKeyword) : String :=
  "keyword argument \"" ++ reason.name ++ "\" contains a tensor"

namespace Invocation

/-- An invocation that is meant to succeed. -/
def ok (args : List (Arg Placeholder)) (kwargs : List (String × Arg Placeholder) := []) :
    Invocation :=
  { args, kwargs, expectError := false }

/-- An invocation that is meant to fail on both sides. -/
def fails (args : List (Arg Placeholder)) (kwargs : List (String × Arg Placeholder) := []) :
    Invocation :=
  { args, kwargs, expectError := true }

/-- Read the invocation with `convert` for each tensor. -/
def project {τ : Type} (invocation : Invocation) (convert : Placeholder → τ) :
    Except TensorKeyword (CallArgs τ) := do
  let keywords ← invocation.kwargs.mapM fun keyword =>
    match keyword.2.withoutTensors? with
    | some value => .ok (keyword.1, value)
    | none => .error { name := keyword.1 }
  .ok { positional := invocation.args.map (Arg.map convert), keywords }

/-- The call that a shape function is given. -/
def shapeArgs (invocation : Invocation) : Except TensorKeyword (CallArgs Sizes) :=
  invocation.project Placeholder.sizes

/-- The call that an operator is given. -/
def realArgs (invocation : Invocation) : Except TensorKeyword (CallArgs RealTensor) :=
  invocation.project Placeholder.toTensor

/-- The invocation as it is written. -/
def text (invocation : Invocation) : String :=
  (if invocation.expectError then "ErrorInvocation(" else "Invocation(") ++
    Text.joined ", "
      (invocation.args.map (Arg.text Placeholder.text) ++
        invocation.kwargs.map fun keyword =>
          keyword.1 ++ "=" ++ keyword.2.text Placeholder.text) ++ ")"

end Invocation

end OpShape
