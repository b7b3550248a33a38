/-
# `OpShape.Registry.Check` — shape functions against a registry.

A function drifts from a registry if its operator is not there, or is there with a signature of
another text.  Functions that are exempt are passed over.
-/
import OpShape.Library
import OpShape.Registry.Basic

namespace OpShape.Registry

/-- Compare the signature of a function with that of its operator. -/
def check (registry : Registry) (function : ShapeFunction) : Except RegistryError Unit :=
  match registry.signature? function.op with
  | none => .error (.notRegistered function.op)
  | some signature =>
    if signature.text = function.signature.text then .ok ()
    else .error (.signatureMismatch function.op signature.text function.signature.text)

/-- Compare the signatures of all functions that are not exempt, in order. -/
def checkAll (registry : Registry) (library : ShapeLibrary) : Except RegistryError Unit :=
  library.functions.forM fun function =>
    if function.isExempt then .ok () else registry.check function

end OpShape.Registry
