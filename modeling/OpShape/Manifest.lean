/-
# `OpShape.Manifest` — the record of a verified library.

A manifest lists the functions of a library, ordered by the text of their operators, with the shapes
that their invocations gave.  It is written and read as JSON.
-/
import OpShape.Json.Parser
import OpShape.Json.Printer
import OpShape.Verify

namespace OpShape

open Json (Value)

/-- An invocation that passed. -/
structure InvocationEntry where
  /-- The invocation as it is written. -/
  call : String
  expectError : Bool
  /-- The shapes that the invocation gave, if it was not meant to fail; a size that was left open is
  missing. -/
  outputs : Option (List (List (Option Nat)))
  deriving DecidableEq, Repr

/-- A function all of whose invocations passed. -/
structure FunctionEntry where
  op : String
  signature : String
  registryExempt : Bool
  invocations : List InvocationEntry
  deriving DecidableEq, Repr

/-- The record of a verified library. -/
structure Manifest where
  version : Nat
  functions : List FunctionEntry
  deriving DecidableEq, Repr

/-! ## What was verified -/

/-- The entry of an invocation that passed. -/
def InvocationEntry.ofVerified (verified : VerifiedInvocation) : InvocationEntry where
  call := verified.invocation.text
  expectError := verified.invocation.expectError
  outputs := verified.outputs.map fun shapes => shapes.map fun shape => shape.dims.map Dim.size?

/-- The entry of a function whose invocations passed. -/
def FunctionEntry.ofVerified (verified : ShapeFunction × List VerifiedInvocation) :
    FunctionEntry where
  op := verified.1.op.text
  signature := verified.1.signature.text
  registryExempt := verified.1.isExempt
  invocations := verified.2.map .ofVerified

namespace Manifest

/-- The version of the format. -/
def currentVersion : Nat := 1

/-- The record of functions whose invocations passed. -/
def ofVerified (verified : List (ShapeFunction × List VerifiedInvocation)) : Manifest where
  version := currentVersion
  functions :=
    (verified.map .ofVerified).mergeSort fun (a b : FunctionEntry) => decide (a.op ≤ b.op)

end Manifest

/-! ## Writing -/

/-- The shapes of outputs. -/
def InvocationEntry.outputsJson (outputs : List (List (Option Nat))) : Value :=
  .array (outputs.map fun sizes => .array (sizes.map (.ofOption .natural)))

/-- The object of an invocation. -/
def InvocationEntry.toJson (entry : InvocationEntry) : Value :=
  .ofMembers [
    ("call", .ofText entry.call),
    ("expect_error", .bool entry.expectError),
    ("outputs", .ofOption outputsJson entry.outputs)]

/-- The object of a function. -/
def FunctionEntry.toJson (entry : FunctionEntry) : Value :=
  .ofMembers [
    ("op", .ofText entry.op),
    ("signature", .ofText entry.signature),
    ("registry_exempt", .bool entry.registryExempt),
    ("invocations", .array (entry.invocations.map InvocationEntry.toJson))]

/-- The object of a manifest. -/
def Manifest.toJson (manifest : Manifest) : Value :=
  .ofMembers [
    ("version", .natural manifest.version),
    ("functions", .array (manifest.functions.map FunctionEntry.toJson))]

/-- The text of a manifest. -/
def Manifest.text (manifest : Manifest) : String :=
  manifest.toJson.pretty

/-! ## Reading -/

/-- The shapes that a value lists. -/
def InvocationEntry.outputsOf? : Value → Option (List (List (Option Nat))) :=
  Value.list? (Value.list? (Value.option? (Value.below? (Nat.pow 2 64))))

/-- The invocation that a value describes.  Outputs that are not mentioned are none. -/
def InvocationEntry.ofJson? (value : Value) : Option InvocationEntry := do
  match ← value.record? ["call", "expect_error", "outputs"] with
  | [some call, some expectError, outputs] =>
    some {
      call := ← call.text?
      expectError := ← expectError.bool?
      outputs := ← (outputs.getD .null).option? outputsOf? }
  | _ => none

/-- The function that a value describes. -/
def FunctionEntry.ofJson? (value : Value) : Option FunctionEntry := do
  match ← value.record? ["op", "signature", "registry_exempt", "invocations"] with
  | [some op, some signature, some registryExempt, some invocations] =>
    some {
      op := ← op.text?
      signature := ← signature.text?
      registryExempt := ← registryExempt.bool?
      invocations := ← invocations.list? InvocationEntry.ofJson? }
  | _ => none

/-- The manifest that a value describes. -/
def Manifest.ofJson? (value : Value) : Option Manifest := do
  match ← value.record? ["version", "functions"] with
  | [some version, some functions] =>
    some {
      version := ← version.below? (Nat.pow 2 32)
      functions := ← functions.list? FunctionEntry.ofJson? }
  | _ => none

/-- Read a manifest. -/
def Manifest.ofText? (text : String) : Option Manifest := do
  Manifest.ofJson? (← Value.parse? text)

end OpShape
