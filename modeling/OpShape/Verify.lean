/-
# `OpShape.Verify` — shape functions against an oracle.

An invocation is tried on both sides: the shape function gets shapes, the oracle tensors.  It passes
if both sides fail where it is meant to fail, and elsewhere if both answer with as many outputs of
the same sizes.  Both sides are always tried, and it does not matter whether a side refuses or
breaks down.
-/
import OpShape.Library
import OpShape.Oracle

namespace OpShape

/-! ## Why an invocation does not pass -/

/-- The two sides that are compared. -/
inductive Side where
  | shapeFunction
  | operator
  deriving DecidableEq, Repr

/-- The other side. -/
def Side.other : Side → Side
  | shapeFunction => operator
  | operator => shapeFunction

/-- The side in words. -/
def Side.text : Side → String
  | shapeFunction => "shape function"
  | operator => "operator"

/-- How the sides disagree with each other, or with what the invocation is meant to do.  What is
expected comes from the operator. -/
inductive Disagreement where
  /-- Exactly one side failed. -/
  | asymmetricFailure (failed : Side) (error : String)
  | missedExpectedError
  | unexpectedDoubleFailure (shapeError opError : String)
  /-- The numbers of outputs differ. -/
  | count (expected actual : Nat)
  /-- The ranks of an output differ. -/
  | rank (output : Nat) (expected : Sizes) (actual : Shape)
  /-- The sizes of a dimension of an output differ. -/
  | dimension (output dim : Nat) (expected : Sizes) (actual : Shape)
  deriving DecidableEq, Repr

/-- The disagreement in words. -/
def Disagreement.message : Disagreement → String
  | asymmetricFailure failed error =>
    failed.text ++ " failed but " ++ failed.other.text ++ " succeeded: " ++ error
  | missedExpectedError => "expected an error but both sides succeeded"
  | unexpectedDoubleFailure shapeError opError =>
    "both sides failed for an invocation expected to succeed (shape function: " ++ shapeError ++
      "; operator: " ++ opError ++ ")"
  | count expected actual =>
    "operator returned " ++ Decimal.natText expected ++
      " outputs but shape function returned " ++ Decimal.natText actual
  | rank output expected actual =>
    "rank mismatch for output " ++ Decimal.natText output ++ ": operator shape " ++
      sizesText expected ++ ", shape function shape " ++ actual.text
  | dimension output dim expected actual =>
    "size mismatch in dim " ++ Decimal.natText dim ++ " of output " ++ Decimal.natText output ++
      ": operator shape " ++ sizesText expected ++ ", shape function shape " ++ actual.text

/-- Why an invocation does not pass. -/
inductive VerifyFailure where
  /-- The invocation cannot be read for the two sides. -/
  | projection (reason : TensorKeyword)
  | disagreement (reason : Disagreement)
  deriving DecidableEq, Repr

/-- The reason in words. -/
def VerifyFailure.message : VerifyFailure → String
  | projection reason => "invalid invocation: " ++ reason.message
  | disagreement reason => reason.message

/-- The operator and the invocation that did not pass, and why. -/
structure VerifyError where
  op : OpName
  /-- The invocation as it is written. -/
  invocation : String
  reason : VerifyFailure
  deriving DecidableEq, Repr

/-- The error in words. -/
def VerifyError.message (error : VerifyError) : String :=
  "verification of " ++ error.op.text ++ " failed for " ++ error.invocation ++ ": " ++
    error.reason.message

/-- Were the two sides tried before the error was found? -/
def VerifyError.afterCalls (error : VerifyError) : Bool :=
  match error.reason with
  | .projection _ => false
  | .disagreement _ => true

/-- An invocation that passed, with the shapes that both sides gave, or none if both failed as they
were meant to. -/
structure VerifiedInvocation where
  invocation : Invocation
  outputs : Option (List Shape)

/-! ## Comparison -/

/-- The outputs of a side, or what it says about its failure. -/
def sideOutputs {ε α : Type} (say : ε → String) :
    Checked ε (Returned α) → Except String (List α)
  | .ok returned => .ok returned.toList
  | .error failure => .error (failure.message say)

/-- The first dimension that is not fixed at the size that is expected. -/
def mismatchedDim? (actual : Shape) (expected : Sizes) : Option Nat :=
  (actual.dims.zip expected).findIdx? fun entry => !entry.1.hasSize entry.2

/-- Compare one output of the shape function with that of the operator. -/
def compareOutput (output : Nat) (actual : Shape) (expected : Sizes) : Except Disagreement Unit :=
  if actual.rank ≠ expected.length then .error (.rank output expected actual)
  else
    match mismatchedDim? actual expected with
    | some dim => .error (.dimension output dim expected actual)
    | none => .ok ()

/-- Compare the outputs of the shape function with those of the operator. -/
def compareOutputs (actual : List Shape) (expected : List Sizes) : Except Disagreement Unit :=
  if actual.length ≠ expected.length then .error (.count expected.length actual.length)
  else
    (actual.zip expected).zipIdx.forM fun entry =>
      compareOutput entry.2 entry.1.1 entry.1.2

/-- The shapes on which both sides agree; none if both fail as they are meant to. -/
def agreedOutputs (expectError : Bool) (shapes : Except String (List Shape))
    (tensors : Except String (List RealTensor)) : Except Disagreement (Option (List Shape)) :=
  match shapes, tensors with
  | .error shapeError, .error opError =>
    if expectError then .ok none else .error (.unexpectedDoubleFailure shapeError opError)
  | .error error, .ok _ => .error (.asymmetricFailure .shapeFunction error)
  | .ok _, .error error => .error (.asymmetricFailure .operator error)
  | .ok shapes, .ok tensors =>
    if expectError then .error .missedExpectedError
    else do
      compareOutputs shapes (tensors.map RealTensor.sizes)
      .ok (some shapes)

/-! ## Runs -/

namespace ShapeFunction

/-- The two calls that an invocation stands for. -/
def projections (invocation : Invocation) :
    Except TensorKeyword (CallArgs Sizes × CallArgs RealTensor) := do
  let shapeArgs ← invocation.shapeArgs
  let realArgs ← invocation.realArgs
  .ok (shapeArgs, realArgs)

/-- Try an invocation on the shape function and on the oracle. -/
def verifyInvocation (function : ShapeFunction) (oracle : Oracle) (token : Nat)
    (invocation : Invocation) : Except VerifyError VerifiedInvocation :=
  let fail (reason : VerifyFailure) : VerifyError :=
    { op := function.op, invocation := invocation.text, reason }
  match projections invocation with
  | .error reason => .error (fail (.projection reason))
  | .ok (shapeArgs, realArgs) =>
    let shapes := sideOutputs ShapeError.message (function.call token shapeArgs)
    let tensors := sideOutputs OpError.message (oracle function.op realArgs)
    match agreedOutputs invocation.expectError shapes tensors with
    | .error reason => .error (fail (.disagreement reason))
    | .ok outputs => .ok { invocation, outputs }

/-- Try the invocations of a shape function up to the first that does not pass.  Each call has a
token of its own, from the given one on. -/
def verify (function : ShapeFunction) (oracle : Oracle) (token : Nat) :
    Except VerifyError (List VerifiedInvocation) :=
  (function.invocations.zipIdx token).mapM fun entry =>
    function.verifyInvocation oracle entry.2 entry.1

/-- The number of calls of the oracle that `verify` makes: one per invocation up to the first that
does not pass, which counts if both sides were tried on it. -/
def oracleCalls (function : ShapeFunction) (oracle : Oracle) :
    List Invocation → Nat
  | [] => 0
  | invocation :: rest =>
    match function.verifyInvocation oracle 0 invocation with
    | .ok _ => function.oracleCalls oracle rest + 1
    | .error error => if error.afterCalls then 1 else 0

end ShapeFunction

end OpShape
