/-
# `OpShape.Proofs.Call.SameBinding` — the same signature binds the same arguments.

Two signatures that are the same parameter by parameter match the arguments of any call in the same
way: they fill the same parameters, refuse for the same reason, and fall back to the same defaults.
A default that is a float is given back as it is written.
-/
import OpShape.Call.Bind
import OpShape.Proofs.Call.SignatureText
import OpShape.Proofs.Outcome

namespace OpShape

variable {τ : Type}

/-- Two arguments are the same: floats that are written alike, or equal arguments. -/
def Arg.SameAs : Arg τ → Arg τ → Prop
  | .float x, .float y => Decimal.floatText x = Decimal.floatText y
  | a, b => a = b

theorem Arg.SameAs.refl (a : Arg τ) : a.SameAs a := by
  cases a <;> rfl

/-- The same arguments are bound to parameters of the same names, in the same order. -/
def BoundArgs.SameAs (a b : BoundArgs τ) : Prop :=
  List.Forall₂ (fun v w => v.1 = w.1 ∧ v.2.SameAs w.2) a.values b.values

theorem Default.SameAs.toArg {a b : Default} (h : a.SameAs b) :
    (a.toArg : Arg τ).SameAs b.toArg := by
  unfold SameAs at h
  split at h
  · exact h
  · rw [h]
    exact Arg.SameAs.refl _

namespace Signature

/-- Slots of the same parameters are filled with equal arguments. -/
structure Slot.SameAs (a b : Slot τ) : Prop where
  param : a.1.SameAs b.1
  arg : a.2 = b.2

theorem fillPositional_same {params others : List Param}
    (h : List.Forall₂ Param.SameAs params others) (args : List (Arg τ)) :
    List.Forall₂ Slot.SameAs (fillPositional params args) (fillPositional others args) := by
  induction h generalizing args with
  | nil => exact .nil
  | cons hparam _ ih =>
    cases args with
    | nil => exact .cons ⟨hparam, rfl⟩ (ih [])
    | cons arg args => exact .cons ⟨hparam, rfl⟩ (ih args)

theorem fillKeyword_same {slots others : List (Slot τ)} (h : List.Forall₂ Slot.SameAs slots others)
    (name : String) (value : Arg τ) :
    EndsSame (List.Forall₂ Slot.SameAs) (fillKeyword name value slots)
      (fillKeyword name value others) := by
  induction h with
  | nil => rfl
  | @cons slot other slots others hslot hrest ih =>
    obtain ⟨param, arg⟩ := slot
    obtain ⟨param', arg'⟩ := other
    obtain ⟨hparam, rfl⟩ : param.SameAs param' ∧ arg = arg' := ⟨hslot.param, hslot.arg⟩
    unfold fillKeyword
    rw [hparam.name]
    by_cases hname : param'.name = name
    · rw [if_pos hname, if_pos hname]
      cases arg with
      | some arg => rfl
      | none => exact List.Forall₂.cons ⟨hparam, rfl⟩ hrest
    · rw [if_neg hname, if_neg hname]
      refine ih.bind fun slots others hslots => ?_
      exact List.Forall₂.cons ⟨hparam, rfl⟩ hslots

theorem slotValue_same {slot other : Slot τ} (h : slot.SameAs other) :
    EndsSame (fun v w => v.1 = w.1 ∧ v.2.SameAs w.2) (slotValue slot) (slotValue other) := by
  obtain ⟨⟨name, type, default⟩, arg⟩ := slot
  obtain ⟨⟨name', type', default'⟩, arg'⟩ := other
  obtain ⟨⟨hname, -, hdefault⟩, harg⟩ := h
  dsimp only at hname hdefault harg
  subst hname harg
  cases arg with
  | some arg => exact ⟨rfl, Arg.SameAs.refl arg⟩
  | none =>
    cases hdefault with
    | none => rfl
    | some hsame => exact ⟨rfl, hsame.toArg⟩

/-- **The same signature binds the same arguments**, or refuses for the same reason. -/
theorem SameAs.bind {a b : Signature} (h : a.SameAs b) (args : CallArgs τ) :
    EndsSame BoundArgs.SameAs (a.bind args) (b.bind args) := by
  unfold Signature.bind
  rw [h.params.length_eq]
  by_cases htoo : b.params.length < args.positional.length
  · rw [if_pos htoo, if_pos htoo]
    rfl
  · rw [if_neg htoo, if_neg htoo]
    have hfilled := fillPositional_same h.params args.positional
    refine (EndsSame.foldlM hfilled fun slots others hslots keyword =>
      fillKeyword_same hslots keyword.1 keyword.2).bind fun slots others hslots => ?_
    refine (EndsSame.mapM hslots fun slot other hslot => slotValue_same hslot).bind
      fun values others' hvalues => ?_
    exact hvalues

end Signature

end OpShape
