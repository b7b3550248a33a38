/-
# `OpShape.Proofs.Operator.Unary` — operators on the elements of one tensor.

The answer has the sizes of the operand, whatever is computed of its elements.  What is left to
compare is what the two sides read besides the operand, and where they refuse it.
-/
import OpShape.Builtin.Convert
import OpShape.Builtin.Scalar
import OpShape.Builtin.Unary
import OpShape.Operator.Unary
import OpShape.Proofs.Operator.Agreement

namespace OpShape.Operator

variable {bound : TensorArgs} {draws : Draws}

/-! ## One operand -/

/-- **An answer with the sizes of its operand follows the rule for single elements.** -/
theorem whole_alike (name : String) {finish : RealTensor → OpResult (Returned RealTensor)}
    (h : ∀ tensor, Answers (OneOf tensor.sizes) (finish tensor)) :
    Alike OneOf
      (do .ok (Rule.unary (← (bound.map RealTensor.sizes).tensor name)) : ShapeResult Sizes)
      (do finish (← liftM (bound.tensor name)) : OpResult (Returned RealTensor)) := by
  apply (alike_whole name bound).bind
  rintro _ tensor rfl
  exact (h tensor).alike

/-- The same for an operand that is taken as floats. -/
theorem elements_alike (name : String)
    {finish : Tensor Float32 → OpResult (Returned RealTensor)}
    (h : ∀ tensor, Answers (OneOf tensor.sizes) (finish tensor)) :
    Alike OneOf
      (do .ok (Rule.unary (← (bound.map RealTensor.sizes).tensor name)) : ShapeResult Sizes)
      (do finish (← floatArg bound name) : OpResult (Returned RealTensor)) := by
  unfold floatArg
  rw [bind_assoc]
  refine whole_alike name fun tensor => ?_
  rw [ok_bind, ← tensor.sizes_toFloats]
  exact h tensor.toFloats

theorem mapSelf_alike (f : Float32 → Float32) :
    Alike OneOf (Builtin.selfShape (bound.map RealTensor.sizes)) (mapSelf f bound) :=
  elements_alike "self" fun _ => rfl

theorem identity_alike :
    Alike OneOf (Builtin.selfShape (bound.map RealTensor.sizes)) (identity bound) :=
  whole_alike "self" fun _ => rfl

theorem zeroed_alike :
    Alike OneOf (Builtin.selfShape (bound.map RealTensor.sizes)) (zeroed bound) :=
  whole_alike "self" fun _ => rfl

theorem bernoulli_alike :
    Alike OneOf (Builtin.selfShape (bound.map RealTensor.sizes)) (bernoulli draws bound) :=
  elements_alike "self" fun _ => rfl

/-! ## Bounds and thresholds -/

theorem leakyRelu_alike {slope : Float} (hslope : bound.float "negative_slope" = .ok slope) :
    Alike OneOf (Builtin.selfShape (bound.map RealTensor.sizes)) (leakyRelu bound) := by
  unfold leakyRelu
  rw [singleArg_eq "negative_slope" hslope, ok_bind]
  exact elements_alike "self" fun _ => rfl

theorem threshold_alike {limit value : Float} (hlimit : bound.float "threshold" = .ok limit)
    (hvalue : bound.float "value" = .ok value) :
    Alike OneOf (Builtin.selfShape (bound.map RealTensor.sizes)) (threshold bound) := by
  unfold threshold
  rw [singleArg_eq "threshold" hlimit, singleArg_eq "value" hvalue, ok_bind, ok_bind]
  exact elements_alike "self" fun _ => rfl

/-- **Clamping follows its rule**: both sides want one bound at least. -/
theorem clamp_alike {low high : Option Float} (hlow : bound.optFloat "min" = .ok low)
    (hhigh : bound.optFloat "max" = .ok high) :
    Alike OneOf (Builtin.clamp (bound.map RealTensor.sizes)) (clamp bound) := by
  unfold Builtin.clamp Builtin.hasBound clamp
  simp only [BoundArgs.optFloat_map, hlow, hhigh, lift_ok, lift_ok_operator, ok_bind]
  cases low with
  | some low => exact elements_alike "self" fun _ => rfl
  | none =>
    cases high with
    | some high => exact elements_alike "self" fun _ => rfl
    | none => exact alike_error_error

section Approximation

variable {name : String} (hname : bound.str "approximate" = .ok name)
include hname

theorem checkApproximate_answers :
    (∃ checked, Builtin.checkApproximate (bound.map RealTensor.sizes) = .ok checked) ↔
      name = "none" ∨ name = "tanh" := by
  unfold Builtin.checkApproximate
  rw [BoundArgs.str_map, hname, lift_ok, ok_bind]
  split
  · simp
  · simp
  · next hnone htanh => simpa [Rule.invalid, Checked.refuse] using ⟨hnone, htanh⟩

theorem approximateArg_answers :
    (∃ approximate, approximateArg bound = .ok approximate) ↔ name = "none" ∨ name = "tanh" := by
  unfold approximateArg
  rw [hname, lift_ok_operator, ok_bind]
  split
  · simp
  · simp
  · next hnone htanh => simpa [invalid, Checked.refuse] using ⟨hnone, htanh⟩

end Approximation

/-- The two sides know the same approximations. -/
theorem approximate_alike :
    Alike (fun _ _ => True) (Builtin.checkApproximate (bound.map RealTensor.sizes))
      (approximateArg bound) := by
  cases hname : bound.str "approximate" with
  | error reason =>
    unfold Builtin.checkApproximate approximateArg
    rw [BoundArgs.str_map, hname]
    exact alike_error_error
  | ok name =>
    have hsame := (checkApproximate_answers hname).trans (approximateArg_answers hname).symm
    exact alike_iff.mpr ⟨hsame, fun _ _ _ _ => trivial⟩

theorem geluSelf_alike :
    Alike OneOf (Builtin.gelu (bound.map RealTensor.sizes)) (geluSelf bound) := by
  unfold Builtin.gelu geluSelf
  apply approximate_alike.bind
  intro _ approximate _
  exact elements_alike "self" fun _ => rfl

/-- **Dropping elements follows its rule**: both sides want a probability, trained or not. -/
theorem dropout_alike {p : Float} {train : Bool} (hp : bound.float "p" = .ok p)
    (htrain : bound.bool "train" = .ok train) :
    Alike OneOf (Builtin.dropout (bound.map RealTensor.sizes)) (dropout draws bound) := by
  unfold Builtin.dropout dropout
  simp only [BoundArgs.float_map, hp, htrain, lift_ok, lift_ok_operator, ok_bind]
  rw [← Bool.decide_and]
  by_cases hrange : 0.0 ≤ p ∧ p ≤ 1.0
  · rw [if_pos hrange, decide_eq_true hrange, if_neg (by decide)]
    refine elements_alike "input" fun tensor => ?_
    cases train with
    | false => rfl
    | true => rfl
  · rw [if_neg hrange, decide_eq_false hrange, if_pos (by decide)]
    exact alike_error_error

/-! ## Element types -/

theorem sizes_cast (toInt : Bool) (tensor : RealTensor) :
    (cast toInt tensor).sizes = tensor.sizes := by
  cases toInt with
  | true => exact sizes_toInts tensor
  | false => exact tensor.sizes_toFloats

theorem castTo_alike {code : Int} (hcode : bound.int "dtype" = .ok code) :
    Alike OneOf (Builtin.selfShape (bound.map RealTensor.sizes)) (castTo bound) := by
  unfold castTo
  rw [hcode]
  exact whole_alike "self" fun tensor => congrArg Returned.one (sizes_cast _ tensor)

theorem castToOptional_alike {code : Option Int} (hcode : bound.optInt "dtype" = .ok code) :
    Alike OneOf (Builtin.selfShape (bound.map RealTensor.sizes)) (castToOptional bound) := by
  unfold castToOptional
  rw [hcode]
  refine whole_alike "self" fun tensor => ?_
  cases code with
  | some code => exact congrArg Returned.one (sizes_cast _ tensor)
  | none => rfl

theorem castLike_alike {other : RealTensor} (hother : bound.tensor "other" = .ok other) :
    Alike OneOf (Builtin.selfShape (bound.map RealTensor.sizes)) (castLike bound) := by
  unfold castLike
  rw [hother]
  exact whole_alike "self" fun tensor => congrArg Returned.one (sizes_cast _ tensor)

/-! ## A tensor and a number -/

section Scalar

variable {other : Float} (hother : bound.float "other" = .ok other)

include hother

theorem compareWith_alike (f : Float32 → Float32 → Bool) :
    Alike OneOf (Builtin.selfShape (bound.map RealTensor.sizes)) (compareWith f bound) := by
  unfold compareWith
  rw [singleArg_eq "other" hother, ok_bind]
  exact elements_alike "self" fun _ => rfl

theorem combineWith_alike (f : Float32 → Float32 → Float32) :
    Alike OneOf (Builtin.selfShape (bound.map RealTensor.sizes)) (combineWith f bound) := by
  unfold combineWith
  rw [singleArg_eq "other" hother, ok_bind]
  exact elements_alike "self" fun _ => rfl

variable {alpha : Float} (halpha : bound.float "alpha" = .ok alpha)

include halpha

theorem combineWithScaled_alike (f : Float32 → Float32 → Float32) :
    Alike OneOf (Builtin.selfShape (bound.map RealTensor.sizes)) (combineWithScaled f bound) := by
  unfold combineWithScaled
  rw [hother, halpha]
  exact elements_alike "self" fun _ => rfl

theorem subtractFrom_alike :
    Alike OneOf (Builtin.selfShape (bound.map RealTensor.sizes)) (subtractFrom bound) := by
  unfold subtractFrom
  rw [singleArg_eq "other" hother, singleArg_eq "alpha" halpha, ok_bind, ok_bind]
  exact elements_alike "self" fun _ => rfl

end Scalar

theorem power_alike {exponent : Float} (hexponent : bound.float "exponent" = .ok exponent) :
    Alike OneOf (Builtin.selfShape (bound.map RealTensor.sizes)) (power bound) := by
  unfold power
  rw [singleArg_eq "exponent" hexponent, ok_bind]
  exact elements_alike "self" fun _ => rfl

end OpShape.Operator
