/-
# `OpShape.Oracle.Reference` — the oracle of this library.

The reference oracle calls the operators of this library, with arguments bound by the schemas of a
registry.  The floats that some operators draw at random are a parameter; a program draws them from
a stream of its own.
-/
import OpShape.Oracle
import OpShape.Operator.Table
import OpShape.Registry.Basic

namespace OpShape

namespace Oracle

/-- Does the reference oracle have an operator of this name? -/
def supports (op : OpName) : Bool :=
  (Operator.ofName? Single.spread op.text).isSome

/-- The number of operators of the reference oracle. -/
def supportedCount : Nat :=
  (Operator.table Single.spread).length

/-- The oracle that calls the operators of this library.  An operator without a schema is unknown to
it, and so is a schema without an operator. -/
def drawing (draws : Draws) (registry : Registry) : Oracle := fun op args =>
  match Operator.ofName? draws op.text, registry.signature? op with
  | some operator, some signature => do operator (← signature.bind args)
  | _, _ => Checked.refuse (.unknownOperator op.text)

/-- The oracle of a program. -/
def reference (registry : Registry) : Oracle :=
  drawing Single.spread registry

end Oracle

end OpShape
