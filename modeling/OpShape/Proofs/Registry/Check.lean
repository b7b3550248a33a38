/-
# `OpShape.Proofs.Registry.Check` — which functions a registry accepts.

A function is accepted if it is exempt or if its signature has the text of the one that the registry
has for its operator.  Any other function drifts, and there are two ways to drift.  A library is
accepted function by function, and what is reported of it is its first function that drifts.
-/
import OpShape.Proofs.Outcome
import OpShape.Registry.Check

namespace OpShape.Registry

/-! ## One function -/

/-- The registry accepts a function: it is exempt, or its operator has a signature of the same
text. -/
def Accepts (registry : Registry) (function : ShapeFunction) : Prop :=
  function.isExempt = false →
    ∃ signature, registry.signature? function.op = some signature ∧
      signature.text = function.signature.text

/-- How a function that is not exempt drifts from the registry. -/
inductive Drift (registry : Registry) (function : ShapeFunction) : RegistryError → Prop
  | notRegistered :
      function.isExempt = false → registry.signature? function.op = none →
      Drift registry function (.notRegistered function.op)
  | signatureMismatch {signature : Signature} :
      function.isExempt = false → registry.signature? function.op = some signature →
      signature.text ≠ function.signature.text →
      Drift registry function
        (.signatureMismatch function.op signature.text function.signature.text)

/-- The comparison of one function with the registry. -/
def checkUnlessExempt (registry : Registry) (function : ShapeFunction) :
    Except RegistryError Unit :=
  if function.isExempt then .ok () else registry.check function

theorem checkUnlessExempt_eq_ok {registry : Registry} {function : ShapeFunction} :
    registry.checkUnlessExempt function = .ok () ↔ registry.Accepts function := by
  unfold checkUnlessExempt Accepts check
  cases function.isExempt with
  | true => simp
  | false =>
    cases registry.signature? function.op with
    | none => simp
    | some signature =>
      by_cases htext : signature.text = function.signature.text <;> simp [htext]

theorem checkUnlessExempt_eq_error {registry : Registry} {function : ShapeFunction}
    {error : RegistryError} :
    registry.checkUnlessExempt function = .error error ↔ registry.Drift function error := by
  unfold checkUnlessExempt check
  constructor
  · intro h
    cases hexempt : function.isExempt with
    | true =>
      rw [hexempt] at h
      cases h
    | false =>
      rw [hexempt] at h
      simp only [Bool.false_eq_true, if_false] at h
      split at h
      · next hnone =>
        rw [← Except.error.inj h]
        exact .notRegistered hexempt hnone
      · next signature hsome =>
        split at h
        · cases h
        · next htext =>
          rw [← Except.error.inj h]
          exact .signatureMismatch hexempt hsome htext
  · intro h
    cases h with
    | notRegistered hexempt hnone =>
      rw [hexempt, hnone]
      rfl
    | signatureMismatch hexempt hsome htext =>
      rw [hexempt, hsome]
      simp only [Bool.false_eq_true, if_false, if_neg htext]

/-! ## All functions of a library -/

/-- The registry has nothing against a library exactly if it accepts each of its functions. -/
theorem checkAll_eq_ok {registry : Registry} {library : ShapeLibrary} :
    registry.checkAll library = .ok () ↔
      ∀ function ∈ library.functions, registry.Accepts function := by
  simp only [← checkUnlessExempt_eq_ok]
  exact forM_eq_ok

/-- The registry objects to the first function that drifts. -/
theorem checkAll_eq_error {registry : Registry} {library : ShapeLibrary}
    {error : RegistryError} :
    registry.checkAll library = .error error ↔
      ∃ before function after, library.functions = before ++ function :: after ∧
        (∀ earlier ∈ before, registry.Accepts earlier) ∧ registry.Drift function error := by
  simp only [← checkUnlessExempt_eq_ok, ← checkUnlessExempt_eq_error]
  exact forM_eq_error

end OpShape.Registry
