/-
# `OpShape.Library` — shape functions and the library that holds them.

A shape function computes the shapes of an operator's outputs from the shapes of its tensor
arguments. With it go its signature and the invocations that it is tried on.  A library holds at
most one shape function per operator, in the order in which they came in.
-/
import OpShape.Invocation
import OpShape.OpName
import OpShape.Rule.Error
import OpShape.Shape

namespace OpShape

/-! ## Shape functions -/

/-- The shape function of an operator. -/
structure ShapeFunction where
  op : OpName
  signature : Signature
  /-- The shapes that bound arguments give.  A size that is left open carries the given token. -/
  compute : Nat → BoundArgs Sizes → ShapeResult (Returned Shape)
  /-- The calls that the function is tried on. -/
  invocations : List Invocation
  /-- Is the signature kept out of the comparison with a registry? -/
  isExempt : Bool

namespace ShapeFunction

/-- Bind the arguments of a call and compute its shapes. -/
def call (function : ShapeFunction) (token : Nat) (args : CallArgs Sizes) :
    ShapeResult (Returned Shape) := do
  function.compute token (← function.signature.bind args)

/-- Add invocations behind those that are there. -/
def addInvocations (function : ShapeFunction) (invocations : List Invocation) : ShapeFunction :=
  { function with invocations := function.invocations ++ invocations }

/-- Keep the signature out of the comparison with a registry. -/
def markExempt (function : ShapeFunction) : ShapeFunction :=
  { function with isExempt := true }

/-- The function as it is shown to a developer. -/
def debugText (function : ShapeFunction) : String :=
  "ShapeFunction \x7b op: " ++ Text.quoted function.op.text ++
    ", signature: " ++ Text.quoted function.signature.text ++
    ", invocations: " ++ Decimal.natText function.invocations.length ++
    ", registry_exempt: " ++ Arg.boolText function.isExempt ++ " \x7d"

@[simp] theorem op_addInvocations (function : ShapeFunction) (invocations : List Invocation) :
    (function.addInvocations invocations).op = function.op := rfl

@[simp] theorem op_markExempt (function : ShapeFunction) :
    function.markExempt.op = function.op := rfl

end ShapeFunction

/-! ## Libraries -/

/-- Why a shape function is not taken into a library. -/
inductive LibraryError where
  | invalidName (text : String)
  | duplicateOperator (op : OpName)
  deriving DecidableEq, Repr

/-- The reason in words. -/
def LibraryError.message : LibraryError → String
  | invalidName text => OpName.invalidText text
  | duplicateOperator op => "shape function for " ++ op.text ++ " registered more than once"

/-- Shape functions in the order in which they were taken in, and an index that tells the place of
each operator's function. -/
structure ShapeLibrary where
  functions : List ShapeFunction
  places : List (OpName × Nat)

namespace ShapeLibrary

/-- The library without functions. -/
def empty : ShapeLibrary :=
  { functions := [], places := [] }

/-- The operators that have a function, in order. -/
def ops (library : ShapeLibrary) : List OpName :=
  library.functions.map ShapeFunction.op

/-- The number of functions. -/
def size (library : ShapeLibrary) : Nat :=
  library.functions.length

/-- Are there no functions? -/
def isEmpty (library : ShapeLibrary) : Bool :=
  library.functions.isEmpty

/-- The place of an operator's function, as the index has it. -/
def place? (library : ShapeLibrary) (op : OpName) : Option Nat :=
  (library.places.find? fun entry => entry.1 = op).map Prod.snd

/-- The function of an operator, which is found by its place. -/
def get? (library : ShapeLibrary) (op : OpName) : Option ShapeFunction :=
  (library.place? op).bind fun place => library.functions[place]?

/-- The function that a registration starts with, which has no invocations so far. -/
def newFunction (op : OpName) (signature : Signature)
    (compute : Nat → BoundArgs Sizes → ShapeResult (Returned Shape)) : ShapeFunction :=
  { op, signature, compute, invocations := [], isExempt := false }

/-- Take a function in, unless its operator has one.  The answer is the function's place, through
which it can be edited; the library is the one that is left in either case. -/
def tryInsert (library : ShapeLibrary) (function : ShapeFunction) :
    Except LibraryError Nat × ShapeLibrary :=
  if (library.place? function.op).isSome then (.error (.duplicateOperator function.op), library)
  else
    let place := library.size
    let indexed := { library with places := library.places ++ [(function.op, place)] }
    (.ok place, { indexed with functions := indexed.functions ++ [function] })

/-- Take in a new function for the operator that a text names. -/
def tryRegister (library : ShapeLibrary) (name : String) (signature : Signature)
    (compute : Nat → BoundArgs Sizes → ShapeResult (Returned Shape)) :
    Except LibraryError Nat × ShapeLibrary :=
  match OpName.ofText? name with
  | none => (.error (.invalidName name), library)
  | some op => library.tryInsert (newFunction op signature compute)

/-- The library with one more function, if it is taken in. -/
def insert (library : ShapeLibrary) (function : ShapeFunction) :
    Except LibraryError ShapeLibrary :=
  (library.tryInsert function).1.map fun _ => (library.tryInsert function).2

/-- The library with a new function for the operator that a text names, if it is taken in. -/
def register (library : ShapeLibrary) (name : String) (signature : Signature)
    (compute : Nat → BoundArgs Sizes → ShapeResult (Returned Shape)) :
    Except LibraryError ShapeLibrary :=
  (library.tryRegister name signature compute).1.map fun _ =>
    (library.tryRegister name signature compute).2

/-- Change the function at a place. -/
def editAt (library : ShapeLibrary) (place : Nat) (change : ShapeFunction → ShapeFunction) :
    ShapeLibrary :=
  { library with functions := library.functions.modify place change }

/-- Change the function of an operator in its place. -/
def edit (library : ShapeLibrary) (op : OpName) (change : ShapeFunction → ShapeFunction) :
    ShapeLibrary :=
  match library.place? op with
  | some place => library.editAt place change
  | none => library

/-- Take in functions one after the other. -/
def insertAll (library : ShapeLibrary) (functions : List ShapeFunction) :
    Except LibraryError ShapeLibrary :=
  functions.foldlM insert library

@[simp] theorem ops_empty : empty.ops = [] := rfl

end ShapeLibrary

end OpShape
