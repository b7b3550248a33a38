/-
# `OpShape.Shape` — shapes that a shape function answers with.

The size of a dimension is either fixed or unknown: it may depend on the elements of a tensor, which
a shape function never sees.  An unknown size carries a token that tells it from the unknown sizes
of other calls; it equals no number.
-/
import OpShape.Sizes

namespace OpShape

/-- The size of one dimension of an output. -/
inductive Dim where
  | fixed (size : Nat)
  /-- A size that depends on elements, with the token of the call that left it open. -/
  | unknown (token : Nat)
  deriving DecidableEq, Repr

namespace Dim

/-- Is the size left open? -/
def isUnknown : Dim → Bool
  | fixed _ => false
  | unknown _ => true

/-- The size, if it is fixed. -/
def size? : Dim → Option Nat
  | fixed size => some size
  | unknown _ => none

/-- Is the dimension fixed at this size? -/
def hasSize (dim : Dim) (size : Nat) : Bool :=
  dim.size? == some size

/-- The size in digits, or a question mark. -/
def text : Dim → String
  | fixed size => Decimal.natText size
  | unknown _ => "?"

end Dim

/-- The shape of an output. -/
structure Shape where
  dims : List Dim
  deriving DecidableEq, Repr

namespace Shape

/-- The shape whose sizes are all fixed. -/
def ofSizes (sizes : Sizes) : Shape :=
  { dims := sizes.map .fixed }

/-- A vector whose length is left open. -/
def unknownVector (token : Nat) : Shape :=
  { dims := [.unknown token] }

/-- The number of dimensions. -/
def rank (shape : Shape) : Nat :=
  shape.dims.length

/-- Is any size left open? -/
def hasUnknown (shape : Shape) : Bool :=
  shape.dims.any Dim.isUnknown

/-- The sizes, if all of them are fixed. -/
def sizes? (shape : Shape) : Option Sizes :=
  shape.dims.mapM Dim.size?

/-- The dimensions in square brackets. -/
def text (shape : Shape) : String :=
  Text.bracketed (shape.dims.map Dim.text)

@[simp] theorem dims_ofSizes (sizes : Sizes) : (ofSizes sizes).dims = sizes.map .fixed := rfl

@[simp] theorem rank_ofSizes (sizes : Sizes) : (ofSizes sizes).rank = sizes.length := by
  simp [rank]

@[simp] theorem sizes?_ofSizes (sizes : Sizes) : (ofSizes sizes).sizes? = some sizes := by
  induction sizes with
  | nil => rfl
  | cons size rest ih =>
    simp only [sizes?, dims_ofSizes] at ih
    simp [sizes?, List.mapM_cons, Dim.size?, ih]

end Shape

/-- What a function of tensors answers: one value, or a tuple of values.  A tuple of one value is
not the same as the value. -/
inductive Returned (α : Type) where
  | one (value : α)
  | many (values : List α)
  deriving DecidableEq, Repr

namespace Returned

variable {α β : Type}

/-- The values in order. -/
def toList : Returned α → List α
  | one value => [value]
  | many values => values

/-- Change every value and keep the form of the answer. -/
def map (f : α → β) : Returned α → Returned β
  | one value => one (f value)
  | many values => many (values.map f)

@[simp] theorem toList_map (f : α → β) (returned : Returned α) :
    (returned.map f).toList = returned.toList.map f := by
  cases returned <;> rfl

end Returned

end OpShape
