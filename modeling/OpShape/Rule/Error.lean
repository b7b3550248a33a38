/-
# `OpShape.Rule.Error` — why a shape has no answer.

The reasons for which a shape rule refuses its arguments, and their wording.
-/
import OpShape.Fault
import OpShape.Call.Bind

namespace OpShape

/-- Why a shape rule refuses. -/
inductive ShapeError where
  | incompatibleShapes (details : String)
  | incorrectRank (details : String)
  | dimOutOfRange (dim : Int) (rank : Nat)
  | indexOutOfRange (index : Int) (size : Nat)
  | invalidValue (details : String)
  /-- A shape with a size that is left open was used as an operand. -/
  | unknownDim
  | bind (reason : BindError)
  deriving DecidableEq, Repr

/-- The reason in words. -/
def ShapeError.message : ShapeError → String
  | incompatibleShapes details => "incompatible shapes: " ++ details
  | incorrectRank details => "incorrect rank: " ++ details
  | dimOutOfRange dim rank =>
    "dim " ++ Decimal.intText dim ++ " is out of range for rank " ++ Decimal.natText rank
  | indexOutOfRange index size =>
    "index " ++ Decimal.intText index ++ " is out of range for size " ++ Decimal.natText size
  | invalidValue details => "invalid value: " ++ details
  | unknownDim => "shape has a data-dependent size"
  | bind reason => "invalid arguments: " ++ reason.message

/-- What a shape rule answers. -/
abbrev ShapeResult (α : Type) := Checked ShapeError α

/-- An argument that does not fit its use is a refusal of the shape rule. -/
instance : MonadLift (Except BindError) (Except (Failure ShapeError)) where
  monadLift := Checked.ofExcept .bind

namespace Rule

/-- Refuse because shapes do not fit each other. -/
def incompatible {α : Type} (details : String) : ShapeResult α :=
  Checked.refuse (.incompatibleShapes details)

/-- Refuse because of a number of dimensions. -/
def wrongRank {α : Type} (details : String) : ShapeResult α :=
  Checked.refuse (.incorrectRank details)

/-- Refuse because of a parameter. -/
def invalid {α : Type} (details : String) : ShapeResult α :=
  Checked.refuse (.invalidValue details)

end Rule

end OpShape
