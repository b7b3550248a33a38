/-
# `OpShape.Operator.Activation` — functions of one float.

The curves that activation operators apply to each element, in 32-bit arithmetic.  Constants are
rounded to 32 bits first, and every product and sum is rounded on its own.
-/
import OpShape.Operator.Args

namespace OpShape.Operator

/-- The ratio of the circumference of a circle to its diameter. -/
def pi : Float32 := 3.14159265358979323846264338327950288

/-- The square root of two. -/
def sqrtTwo : Float32 := 1.41421356237309504880168872420969808

/-- The square root of the quotient of two and pi. -/
def sqrtTwoOverPi : Float32 := 0.7978846

/-- The cube of a float, its square being taken first. -/
def cube (x : Float32) : Float32 :=
  x * (x * x)

/-- The error function by a polynomial of degree five in `1 / (1 + c * |x|)`, which is off by less
than two parts in ten million. -/
def erf (x : Float32) : Float32 :=
  let size := x.abs
  let t := 1.0 / (1.0 + 0.3275911 * size)
  let poly := t * (0.254829592
    + t * (-0.284496736 + t * (1.421413741 + t * (-1.453152027 + t * 1.061405429))))
  Single.signum x * (1.0 - poly * (-size * size).exp)

/-- The logistic curve. -/
def sigmoid (x : Float32) : Float32 :=
  1.0 / (1.0 + (-x).exp)

/-- The straight line through `(0, 1/2)` with slope `1/6`, held between zero and one. -/
def hardsigmoid (x : Float32) : Float32 :=
  Single.clip 0.0 1.0 (x / 6.0 + 0.5)

/-- The Gaussian error linear unit; `approximate` asks for the form that goes through `tanh`. -/
def gelu (approximate : Bool) (x : Float32) : Float32 :=
  if approximate then
    0.5 * x * (1.0 + (sqrtTwoOverPi * (x + 0.044715 * cube x)).tanh)
  else
    0.5 * x * (1.0 + erf (x / sqrtTwo))

/-- The slope of `gelu`. -/
def geluSlope (approximate : Bool) (x : Float32) : Float32 :=
  if approximate then
    let inner := sqrtTwoOverPi * (x + 0.044715 * cube x)
    let t := inner.tanh
    0.5 * (1.0 + t) + 0.5 * x * (1.0 - t * t) * sqrtTwoOverPi * (1.0 + 3.0 * 0.044715 * x * x)
  else
    let cdf := 0.5 * (1.0 + erf (x / sqrtTwo))
    let pdf := (-0.5 * x * x).exp / (2.0 * pi).sqrt
    cdf + x * pdf

/-- Does the argument `approximate` ask for the approximate form? -/
def approximateArg (args : TensorArgs) : OpResult Bool := do
  match ← args.str "approximate" with
  | "none" => .ok false
  | "tanh" => .ok true
  | _ => invalid "Unsupported GELU approximation"

end OpShape.Operator
