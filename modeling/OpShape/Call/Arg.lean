/-
# `OpShape.Call.Arg` — the arguments of a call.

The same call is made in two worlds: with shapes in the place of tensors, and with tensors.  `τ` is
whatever stands for a tensor.  Arguments nest, because a list is an argument too.
-/
import OpShape.Text.Quoted
import OpShape.Text.Split
import OpShape.Decimal.FloatText

namespace OpShape

/-- An argument of a call; `τ` stands for tensors. -/
inductive Arg (τ : Type) where
  | tensor (value : τ)
  | int (value : Int)
  | float (value : Float)
  | bool (value : Bool)
  | str (value : String)
  | none
  | list (items : List (Arg τ))

/-- The arguments of a call: those given by position, and those given by name in their order. -/
structure CallArgs (τ : Type) where
  positional : List (Arg τ)
  keywords : List (String × Arg τ)

namespace Arg

variable {τ υ : Type}

/-! ## Texts -/

/-- A truth value in lower case. -/
def boolText (b : Bool) : String :=
  if b then "true" else "false"

mutual

/-- The argument as it is written in a call, where `say` writes a tensor. -/
def text (say : τ → String) : Arg τ → String
  | tensor value => say value
  | int value => Decimal.intText value
  | float value => Decimal.floatText value
  | bool value => boolText value
  | str value => Text.quoted value
  | none => "None"
  | list items => Text.bracketed (itemTexts say items)

/-- The items of a list as they are written. -/
def itemTexts (say : τ → String) : List (Arg τ) → List String
  | [] => []
  | item :: items => item.text say :: itemTexts say items

end

/-! ## Tensors inside arguments -/

mutual

/-- Put something else in the place of each tensor. -/
def map (f : τ → υ) : Arg τ → Arg υ
  | tensor value => tensor (f value)
  | int value => int value
  | float value => float value
  | bool value => bool value
  | str value => str value
  | none => none
  | list items => list (mapItems f items)

/-- Put something else in the place of each tensor of each item. -/
def mapItems (f : τ → υ) : List (Arg τ) → List (Arg υ)
  | [] => []
  | item :: items => item.map f :: mapItems f items

end

mutual

/-- The same argument where nothing stands for a tensor, if there is no tensor at any depth. -/
def withoutTensors? : Arg τ → Option (Arg υ)
  | tensor _ => Option.none
  | int value => some (int value)
  | float value => some (float value)
  | bool value => some (bool value)
  | str value => some (str value)
  | none => some none
  | list items => (itemsWithoutTensors? items).map list

/-- The same items where nothing stands for a tensor, if there is no tensor at any depth. -/
def itemsWithoutTensors? : List (Arg τ) → Option (List (Arg υ))
  | [] => some []
  | item :: items => do
    let item ← item.withoutTensors?
    let items ← itemsWithoutTensors? items
    some (item :: items)

end

theorem itemTexts_eq_map (say : τ → String) (items : List (Arg τ)) :
    itemTexts say items = items.map (text say) := by
  induction items with
  | nil => rfl
  | cons item items ih => simp [itemTexts, ih]

theorem mapItems_eq_map (f : τ → υ) (items : List (Arg τ)) :
    mapItems f items = items.map (map f) := by
  induction items with
  | nil => rfl
  | cons item items ih => simp [mapItems, ih]

end Arg

namespace CallArgs

variable {τ υ : Type}

/-- Put something else in the place of each tensor of a call. -/
def map (f : τ → υ) (args : CallArgs τ) : CallArgs υ where
  positional := args.positional.map (Arg.map f)
  keywords := args.keywords.map fun keyword => (keyword.1, keyword.2.map f)

end CallArgs

end OpShape
