/-
# `OpShape.Call.Bind` — which argument goes to which parameter.

Positional arguments fill the parameters from the first on, keywords fill the parameters that they
name, and defaults fill the rest.  What was bound is then asked for by name and kind.
-/
import OpShape.Call.Signature

namespace OpShape

/-- Why arguments do not fit a signature, or a bound argument does not fit its use. -/
inductive BindError where
  | tooManyArguments (max given : Nat)
  | unexpectedKeyword (name : String)
  | duplicateArgument (name : String)
  | missingArgument (name : String)
  | unknownParameter (name : String)
  | wrongType (name expected : String)
  deriving DecidableEq, Repr

/-- The reason in words. -/
def BindError.message : BindError → String
  | tooManyArguments max given =>
    "too many positional arguments (expected at most " ++ Decimal.natText max ++ ", got " ++
      Decimal.natText given ++ ")"
  | unexpectedKeyword name => "unexpected keyword argument \"" ++ name ++ "\""
  | duplicateArgument name => "multiple values for argument \"" ++ name ++ "\""
  | missingArgument name => "missing argument \"" ++ name ++ "\""
  | unknownParameter name => "unknown parameter \"" ++ name ++ "\""
  | wrongType name expected => "argument \"" ++ name ++ "\" should be " ++ expected

/-- The arguments of a call by the names of the parameters that they are bound to. -/
structure BoundArgs (τ : Type) where
  values : List (String × Arg τ)

namespace Signature

variable {τ : Type}

/-- A parameter and the argument that fills it, if there is one yet. -/
abbrev Slot (τ : Type) := Param × Option (Arg τ)

/-- Give the positional arguments to the parameters in order. -/
def fillPositional : List Param → List (Arg τ) → List (Slot τ)
  | [], _ => []
  | param :: params, [] => (param, none) :: fillPositional params []
  | param :: params, arg :: args => (param, some arg) :: fillPositional params args

/-- Give an argument to the first parameter of a name. -/
def fillKeyword (name : String) (value : Arg τ) :
    List (Slot τ) → Except BindError (List (Slot τ))
  | [] => .error (.unexpectedKeyword name)
  | (param, slot) :: slots =>
    if param.name = name then
      match slot with
      | some _ => .error (.duplicateArgument name)
      | none => .ok ((param, some value) :: slots)
    else do
      let slots ← fillKeyword name value slots
      .ok ((param, slot) :: slots)

/-- The argument of a parameter: the one that was given, or else its default. -/
def slotValue : Slot τ → Except BindError (String × Arg τ)
  | (param, some value) => .ok (param.name, value)
  | (param, none) =>
    match param.default with
    | some default => .ok (param.name, default.toArg)
    | none => .error (.missingArgument param.name)

/-- Match the arguments of a call with the parameters. -/
def bind (signature : Signature) (args : CallArgs τ) : Except BindError (BoundArgs τ) := do
  if signature.params.length < args.positional.length then
    .error (.tooManyArguments signature.params.length args.positional.length)
  let slots := fillPositional signature.params args.positional
  let slots ← args.keywords.foldlM
    (fun slots keyword => fillKeyword keyword.1 keyword.2 slots) slots
  let values ← slots.mapM slotValue
  .ok { values }

end Signature

namespace BoundArgs

variable {τ α : Type}

/-- The argument that is bound to a parameter. -/
def arg (args : BoundArgs τ) (name : String) : Except BindError (Arg τ) :=
  match args.values.find? fun value => value.1 = name with
  | some value => .ok value.2
  | none => .error (.unknownParameter name)

/-- Ask for an argument in a form that `view` recognises. -/
def take (args : BoundArgs τ) (name expected : String) (view : Arg τ → Option α) :
    Except BindError α := do
  match view (← args.arg name) with
  | some value => .ok value
  | none => .error (.wrongType name expected)

/-- Ask for a list whose items `view` recognises. -/
def takeList (args : BoundArgs τ) (name expected : String) (view : Arg τ → Option α) :
    Except BindError (List α) :=
  args.take name expected fun
    | .list items => items.mapM view
    | _ => none

/-! ## Tensors -/

/-- A tensor. -/
def tensor (args : BoundArgs τ) (name : String) : Except BindError τ :=
  args.take name "a tensor" fun
    | .tensor value => some value
    | _ => none

/-- A tensor or none. -/
def optTensor (args : BoundArgs τ) (name : String) : Except BindError (Option τ) :=
  args.take name "a tensor or None" fun
    | .tensor value => some (some value)
    | .none => some none
    | _ => none

/-- A list of tensors. -/
def tensors (args : BoundArgs τ) (name : String) : Except BindError (List τ) :=
  args.takeList name "a list of tensors" fun
    | .tensor value => some value
    | _ => none

/-- A list whose items are tensors or none. -/
def optTensors (args : BoundArgs τ) (name : String) : Except BindError (List (Option τ)) :=
  args.takeList name "a list of optional tensors" fun
    | .tensor value => some (some value)
    | .none => some none
    | _ => none

/-! ## Numbers, flags and texts -/

/-- An integer. -/
def int (args : BoundArgs τ) (name : String) : Except BindError Int :=
  args.take name "an int" fun
    | .int value => some value
    | _ => none

/-- An integer or none. -/
def optInt (args : BoundArgs τ) (name : String) : Except BindError (Option Int) :=
  args.take name "an int or None" fun
    | .int value => some (some value)
    | .none => some none
    | _ => none

/-- A list of integers. -/
def ints (args : BoundArgs τ) (name : String) : Except BindError (List Int) :=
  args.takeList name "a list of ints" fun
    | .int value => some value
    | _ => none

/-- A list of integers or none. -/
def optInts (args : BoundArgs τ) (name : String) : Except BindError (Option (List Int)) := do
  match ← args.arg name with
  | .none => .ok none
  | _ => (args.ints name).map some

/-- A float; an integer is taken as the nearest one. -/
def float (args : BoundArgs τ) (name : String) : Except BindError Float :=
  args.take name "a float" fun
    | .float value => some value
    | .int value => some (Float.ofInt value)
    | _ => none

/-- A float or none. -/
def optFloat (args : BoundArgs τ) (name : String) : Except BindError (Option Float) := do
  match ← args.arg name with
  | .none => .ok none
  | _ => (args.float name).map some

/-- A truth value. -/
def bool (args : BoundArgs τ) (name : String) : Except BindError Bool :=
  args.take name "a bool" fun
    | .bool value => some value
    | _ => none

/-- A text. -/
def str (args : BoundArgs τ) (name : String) : Except BindError String :=
  args.take name "a string" fun
    | .str value => some value
    | _ => none

end BoundArgs

end OpShape
