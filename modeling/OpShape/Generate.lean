/-
# `OpShape.Generate` — from a library to its manifest.

A run verifies every function of a library, then compares the library with a registry, and only then
makes the manifest.  It stops at the first thing that is wrong.
-/
import OpShape.Manifest
import OpShape.Registry.Check

namespace OpShape

/-- Why there is no manifest, or why it was not written. -/
inductive GenerateError where
  | verify (error : VerifyError)
  | registry (error : RegistryError)
  /-- A file could not be written, for a cause that lies outside. -/
  | write (path cause : String)
  deriving DecidableEq, Repr

/-- The error in words. -/
def GenerateError.message : GenerateError → String
  | verify error => error.message
  | registry error => "registry check failed: " ++ error.message
  | write path cause => "failed to write " ++ path ++ ": " ++ cause

/-- Verify functions in order.  The tokens of their calls are numbered from the given one on. -/
def verifyAll (oracle : Oracle) :
    Nat → List ShapeFunction → Except VerifyError (List (ShapeFunction × List VerifiedInvocation))
  | _, [] => .ok []
  | token, function :: functions => do
    let verified ← function.verify oracle token
    let others ← verifyAll oracle (token + function.invocations.length) functions
    .ok ((function, verified) :: others)

/-- The number of calls of the oracle that `verifyAll` makes. -/
def verifyCalls (oracle : Oracle) : List ShapeFunction → Nat
  | [] => 0
  | function :: functions =>
    function.oracleCalls oracle function.invocations +
      match function.verify oracle 0 with
      | .ok _ => verifyCalls oracle functions
      | .error _ => 0

/-- Verify a library, compare it with a registry and make its manifest. -/
def generate (library : ShapeLibrary) (oracle : Oracle) (registry : Registry) :
    Except GenerateError Manifest := do
  let verified ← (verifyAll oracle 0 library.functions).mapError .verify
  (registry.checkAll library).mapError .registry
  .ok (.ofVerified verified)

end OpShape
