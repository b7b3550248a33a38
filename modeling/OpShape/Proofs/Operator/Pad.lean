/-
# `OpShape.Proofs.Operator.Pad` — padding agrees with the operators and reads inside its input.

A plan that is accepted reads every position of the answer from a position that its dimension has, or
fills it, whatever the signs of the pads are.  What an operator cannot pad it refuses, so that it
never breaks down.  The operator takes all sizes of its input for signed words, the rule only those of
dimensions with pads, so that the sizes have to be below 2⁶³.
-/
import OpShape.Builtin.Pad
import OpShape.Proofs.Operator.PadPlan

namespace OpShape.Operator

open Tensor (HasSizes answers_at? answers_ofIndices)

variable {α : Type} {padding : Padding} {sizes : Sizes}

attribute [local irreducible] signed

/-! ## Where positions are read from -/

/-- The position is filled, or it is read from a position below the size; only constant padding
fills. -/
def SourceInside (padding : Padding) (size : Nat) (source : Option Int) : Prop :=
  (source = none ∧ padding = .constant) ∨
    ∃ place : Int, source = some place ∧ 0 ≤ place ∧ place < size

/-- Every position of a padded dimension is filled, or read from a position of the dimension. -/
def ReadsInside (padding : Padding) (dim : PaddedDim) : Prop :=
  ∀ position : Nat, (position : Int) < dim.padded →
    Answers (SourceInside padding dim.size)
      (padding.source (position - dim.before) (signed dim.size))

/-- **A position between the pads and the padded size is read inside the dimension**, whatever the
signs of the pads are: a pad that takes elements away moves the positions on, but not beyond what
the other pad adds, and that is bounded by the size. -/
theorem answers_source {position size : Nat} {before after : Int}
    (hposition : (position : Int) < size + before + after)
    (hfits : Rule.padFits padding.mode size before after = true) :
    Answers (SourceInside padding size) (padding.source (position - before) size) := by
  unfold Padding.source
  by_cases hinside : 0 ≤ (position : Int) - before ∧ (position : Int) - before < size
  · rw [if_pos hinside]
    exact .inr ⟨_, rfl, hinside⟩
  rw [if_neg hinside]
  cases padding with
  | constant => exact .inl ⟨rfl, rfl⟩
  | reflect =>
    simp only [Padding.mode, Rule.padFits, Bool.and_eq_true, decide_eq_true_eq] at hfits
    refine .inr ⟨_, rfl, ?_⟩
    by_cases hbefore : (position : Int) - before < 0
    · rw [if_pos hbefore]
      omega
    · rw [if_neg hbefore]
      omega
  | replicate =>
    simp only [Padding.mode, Rule.padFits, decide_eq_true_eq] at hfits
    dsimp only
    rw [Checked.clamp_of_le (by omega), ok_bind]
    refine .inr ⟨_, rfl, ?_⟩
    omega
  | circular =>
    simp only [Padding.mode, Rule.padFits, Bool.and_eq_true, decide_eq_true_eq] at hfits
    have hsize : (size : Int) ≠ 0 := by omega
    dsimp only
    rw [if_neg hsize]
    refine .inr ⟨_, rfl, Int.emod_nonneg _ hsize, ?_⟩
    exact Int.emod_lt_of_pos _ (by omega)

/-- **A dimension that can be padded is read inside its bounds.** -/
theorem readsInside_of_paddable {size : Nat} {pair : Option (Int × Int)} (hsize : size < 2 ^ 63)
    (hpaddable : Paddable padding (dimWith size pair)) : ReadsInside padding (dimWith size pair) := by
  obtain ⟨-, hfits⟩ := hpaddable
  intro position hposition
  cases pair with
  | none =>
    rw [padded_dimWith_none hsize] at hposition
    have hinside : 0 ≤ (position : Int) - 0 ∧ (position : Int) - 0 < size := by omega
    unfold dimWith Padding.source
    dsimp only
    rw [signed_of_lt hsize, if_pos hinside]
    exact .inr ⟨_, rfl, hinside⟩
  | some pair =>
    obtain ⟨before, after⟩ := pair
    unfold PaddedDim.padded at hposition
    unfold dimWith at hposition hfits ⊢
    dsimp only at hposition hfits ⊢
    rw [signed_of_lt hsize] at hposition hfits ⊢
    exact answers_source hposition (hfits rfl)

theorem Accepts.readsInside {pads : List Int} (h : Accepts padding sizes pads)
    (hsizes : ∀ size ∈ sizes, size < 2 ^ 63) :
    ∀ dim ∈ planOf sizes (Rule.padPairs pads), ReadsInside padding dim := by
  intro dim hdim
  have hpaddable := h.dims dim hdim
  unfold planOf at hdim
  obtain ⟨⟨size, axis⟩, hmem, rfl⟩ := List.mem_map.mp hdim
  exact readsInside_of_paddable (hsizes size (List.fst_mem_of_mem_zipIdx hmem)) hpaddable

/-! ## The operator -/

/-- **An index of the answer is filled, or read from an index of the input**, if each of its
coordinates is. -/
theorem answers_padSource {plan : List PaddedDim} (hreads : ∀ dim ∈ plan, ReadsInside padding dim)
    {index : List Nat} (hindex : Inside index (plan.map fun dim => dim.padded.toNat)) :
    Answers (fun found => (found = none ∧ padding = .constant) ∨
        ∃ source, found = some source ∧ Inside source (plan.map PaddedDim.size))
      (padSource padding plan index) := by
  induction plan generalizing index with
  | nil =>
    cases hindex
    exact .inr ⟨[], rfl, .nil⟩
  | cons dim plan ih =>
    rw [List.map_cons] at hindex
    cases hindex with
    | @cons i _ index _ hlt hrest =>
    rw [List.forall_mem_cons] at hreads
    obtain ⟨hdim, hplan⟩ := hreads
    unfold padSource
    apply (hdim i (by omega)).bind
    rintro source (⟨rfl, hconstant⟩ | ⟨place, rfl, hnonneg, hplace⟩)
    · exact .inl ⟨rfl, hconstant⟩
    · apply (ih hplan hrest).bind
      rintro found (⟨rfl, hconstant⟩ | ⟨rest, rfl, hinside⟩)
      · exact .inl ⟨rfl, hconstant⟩
      · exact .inr ⟨_, rfl, .cons (by omega) hinside⟩

section PadTensor

variable {input : Tensor α} {pads : List Int}

/-- What is left of padding once there is a plan always answers. -/
theorem answers_padded (fill : α) (haccepts : Accepts padding input.sizes pads)
    (hsizes : ∀ size ∈ input.sizes, size < 2 ^ 63) :
    Answers (HasSizes ((planOf input.sizes (Rule.padPairs pads)).map fun dim => dim.padded.toNat))
      (Tensor.ofIndices ((planOf input.sizes (Rule.padPairs pads)).map fun dim => dim.padded.toNat)
        fun index => do
          match ← padSource padding (planOf input.sizes (Rule.padPairs pads)) index with
          | some source => input.at? source
          | none => .ok fill : OpResult (Tensor α)) := by
  apply answers_ofIndices
  intro index hindex
  apply (answers_padSource (haccepts.readsInside hsizes) hindex).bind
  rintro found (⟨rfl, -⟩ | ⟨source, rfl, hinside⟩)
  · trivial
  · rw [map_size_planOf] at hinside
    exact answers_at? hinside

/-- **Padding follows its rule.** -/
theorem padTensor_alike (padding : Padding) (fill : α)
    (hsizes : ∀ size ∈ input.sizes, size < 2 ^ 63) :
    Alike HasSizes (Rule.padWithMode input.sizes pads padding.mode)
      (padTensor padding fill input pads) := by
  unfold padTensor
  apply (padPlan_alike padding hsizes pads).bind_right
  rintro _ _ ⟨haccepts, rfl, rfl⟩
  exact answers_padded fill haccepts hsizes

/-- **Padding never breaks down**: what it cannot pad it refuses. -/
theorem unbroken_padTensor (fill : α) (hsizes : ∀ size ∈ input.sizes, size < 2 ^ 63) :
    Unbroken (padTensor padding fill input pads) := by
  unfold padTensor
  apply (unbroken_padPlan padding input.sizes pads).bind
  intro plan hplan
  obtain ⟨haccepts, rfl⟩ := (padPlan_eq_ok hsizes pads plan).mp hplan
  exact (answers_padded fill haccepts hsizes).unbroken

end PadTensor

/-! ## Calls -/

section Calls

variable {bound : TensorArgs}

/-- All sizes of the tensor that a call pads are signed words. -/
def PadArgsFit (bound : TensorArgs) : Prop :=
  ∀ input, floatArg bound "self" = .ok input → ∀ size ∈ input.sizes, size < 2 ^ 63

/-- A call that pads, once its way to pad is known. -/
def padCall (padding : Padding) (fill : Float32) : Operator := fun args => do
  let input ← floatArg args "self"
  let pads ← args.ints "pad"
  one (← padTensor padding fill input pads)

theorem padCall_alike (padding : Padding) (fill : Float32) (hfits : PadArgsFit bound) :
    Alike SingleOf
      (do
        let shape ← (liftM ((bound.map RealTensor.sizes).tensor "self") : ShapeResult Sizes)
        let pads ← (liftM ((bound.map RealTensor.sizes).ints "pad") : ShapeResult (List Int))
        Rule.padWithMode shape pads padding.mode)
      (padCall padding fill bound) := by
  unfold padCall
  apply (alike_floats "self" bound).and_eq_ok.bind
  rintro _ input ⟨rfl, hinput⟩
  rw [BoundArgs.ints_map]
  apply (alike_self (bound.ints "pad")).bind
  rintro pads _ rfl
  exact (padTensor_alike padding fill (hfits input hinput)).single

theorem unbroken_padCall (padding : Padding) (fill : Float32) (hfits : PadArgsFit bound) :
    Unbroken (padCall padding fill bound) := by
  unfold padCall
  refine Unbroken.bind ?_ fun input hinput => ?_
  · unfold floatArg
    exact (unbroken_lift _).bind fun _ _ => unbroken_ok _
  · apply (unbroken_lift _).bind
    intro pads _
    exact (unbroken_padTensor fill (hfits input hinput)).bind fun _ _ => unbroken_ok _

/-- The answer of a call has the sizes of a plan, each dimension of the input with its pads, that
reads no position outside the input. -/
def PaddedInside (padding : Padding) (bound : TensorArgs) (returned : Returned RealTensor) : Prop :=
  ∃ input pads plan, floatArg bound "self" = .ok input ∧ bound.ints "pad" = .ok pads ∧
    padPlan padding input.sizes pads = .ok plan ∧ plan.map PaddedDim.size = input.sizes ∧
      OneOf (plan.map fun dim => dim.padded.toNat) returned ∧
        ∀ dim ∈ plan, ReadsInside padding dim

theorem paddedInside_of_ok {padding : Padding} {fill : Float32} {returned : Returned RealTensor}
    (hfits : PadArgsFit bound) (h : padCall padding fill bound = .ok returned) :
    PaddedInside padding bound returned := by
  unfold padCall at h
  obtain ⟨input, hinput, h⟩ := bind_eq_ok.mp h
  obtain ⟨pads, hpads, h⟩ := bind_eq_ok.mp h
  obtain ⟨output, houtput, h⟩ := bind_eq_ok.mp h
  have hsizes := hfits input hinput
  unfold padTensor at houtput
  obtain ⟨plan, hplan, houtput⟩ := bind_eq_ok.mp houtput
  obtain ⟨haccepts, rfl⟩ := (padPlan_eq_ok hsizes pads plan).mp hplan
  obtain ⟨padded, hpadded, hsame⟩ := answers_iff.mp (answers_padded fill haccepts hsizes)
  obtain rfl : output = padded := Except.ok.inj (houtput.symm.trans hpadded)
  obtain rfl : Returned.one (.float output) = returned := Except.ok.inj h
  refine ⟨input, pads, _, hinput, lift_eq_ok.mp hpads, hplan, map_size_planOf _ _, ?_,
    haccepts.readsInside hsizes⟩
  exact congrArg Returned.one hsame

/-- The way to pad that a call asks for, and its fill value. -/
def paddingOf (op : String) (args : TensorArgs) : OpResult (Padding × Float32) :=
  if op = "aten::pad" then paddingArg args else do .ok (.constant, ← singleArg args "value")

theorem constantPadOf_eq {value : Float} (hvalue : bound.float "value" = .ok value) :
    constantPadOf bound = padCall .constant value.toFloat32 bound := by
  unfold constantPadOf padCall
  simp only [singleArg_eq "value" hvalue, ok_bind]

/-- Both sides know the same ways to pad by name. -/
theorem paddingArg_alike {value : Option Float} (hvalue : bound.optFloat "value" = .ok value) :
    Alike (fun mode named => mode = named.1.mode)
      (do Rule.padMode (← (liftM ((bound.map RealTensor.sizes).str "mode") : ShapeResult String)))
      (paddingArg bound) := by
  have hfill : (liftM (bound.optFloat "value") : OpResult (Option Float)) = .ok value :=
    lift_eq_ok.mpr hvalue
  unfold paddingArg
  apply (alike_str "mode" bound).bind
  rintro name _ rfl
  simp only [hfill, ok_bind]
  unfold Rule.padMode PadMode.ofName?
  by_cases hconstant : name = "constant"
  · subst hconstant
    rfl
  by_cases hreflect : name = "reflect"
  · subst hreflect
    rfl
  by_cases hreplicate : name = "replicate"
  · subst hreplicate
    rfl
  by_cases hcircular : name = "circular"
  · subst hcircular
    rfl
  simp [Rule.invalid, invalid, Checked.refuse]

theorem unbroken_paddingArg (bound : TensorArgs) : Unbroken (paddingArg bound) := by
  unfold paddingArg
  apply (unbroken_lift _).bind
  intro name _
  split
  · exact (unbroken_lift _).bind fun _ _ => unbroken_ok _
  · exact unbroken_ok _
  · exact unbroken_ok _
  · exact unbroken_ok _
  · exact unbroken_refuse _

theorem padOf_eq (bound : TensorArgs) :
    padOf bound = (do
      let named ← paddingArg bound
      padCall named.1 named.2 bound) := rfl

/-- Padding in the way that a call names follows its rule. -/
theorem padOf_alike {value : Option Float} (hvalue : bound.optFloat "value" = .ok value)
    (hfits : PadArgsFit bound) :
    Alike SingleOf (Builtin.padded (bound.map RealTensor.sizes)) (padOf bound) := by
  unfold Builtin.padded
  rw [padOf_eq, ← bind_assoc]
  apply (paddingArg_alike hvalue).bind
  rintro _ ⟨padding, fill⟩ rfl
  exact padCall_alike padding fill hfits

/-- Padding with a number follows its rule. -/
theorem constantPadOf_alike {value : Float} (hvalue : bound.float "value" = .ok value)
    (hfits : PadArgsFit bound) :
    Alike SingleOf (Builtin.constantPadded (bound.map RealTensor.sizes)) (constantPadOf bound) := by
  rw [constantPadOf_eq hvalue]
  have halike := padCall_alike .constant value.toFloat32 hfits
  unfold Builtin.constantPadded
  simpa only [Padding.mode, padWithMode_constant] using halike

end Calls

end OpShape.Operator

namespace OpShape

variable {draws : Draws}

/-! ## Agreement -/

/-- **Padding agrees with the operators, breaks down nowhere and reads inside its input**, on every
well typed call on a tensor whose sizes are all below 2⁶³: with any text for the way to pad, and a
list of pads of any length and signs. -/
theorem padding_agrees {function : ShapeFunction} (hfunction : function ∈ Builtin.padFamily)
    {args : CallArgs RealTensor} {bound : TensorArgs}
    (hbind : function.signature.bind args = .ok bound)
    (htyped : function.signature.WellTyped bound) (hfits : Operator.PadArgsFit bound) (token : Nat) :
    ∃ operator, Operator.ofName? draws function.op.text = some operator ∧
      Agree (function.call token (args.map RealTensor.sizes)) (operator bound) ∧
      Unbroken (operator bound) ∧
      ∀ returned, operator bound = .ok returned → ∃ padding fill,
        Operator.paddingOf function.op.text bound = .ok (padding, fill) ∧
          Operator.PaddedInside padding bound returned := by
  rw [ShapeFunction.call_sizes hbind]
  unfold Builtin.padFamily at hfunction
  simp only [List.mem_cons, List.not_mem_nil, or_false] at hfunction
  rcases hfunction with rfl | rfl
  · obtain ⟨value, hvalue⟩ := htyped.float "value" rfl rfl
    have hcall := Operator.constantPadOf_eq hvalue
    refine ⟨Operator.constantPadOf, rfl, ?_, ?_, ?_⟩
    · exact agree_of_singleOf token (Operator.constantPadOf_alike hvalue hfits)
    · exact hcall ▸ Operator.unbroken_padCall _ _ hfits
    · intro returned hreturned
      refine ⟨.constant, value.toFloat32, ?_, ?_⟩
      · show (do .ok (Operator.Padding.constant, ← Operator.singleArg bound "value")) = _
        rw [singleArg_eq "value" hvalue]
        rfl
      · exact Operator.paddedInside_of_ok hfits (hcall ▸ hreturned)
  · obtain ⟨value, hvalue⟩ := htyped.optFloat "value" rfl rfl
    refine ⟨Operator.padOf, rfl, ?_, ?_, ?_⟩
    · exact agree_of_singleOf token (Operator.padOf_alike hvalue hfits)
    · rw [Operator.padOf_eq]
      exact (Operator.unbroken_paddingArg bound).bind
        fun _ _ => Operator.unbroken_padCall _ _ hfits
    · intro returned hreturned
      rw [Operator.padOf_eq] at hreturned
      obtain ⟨⟨padding, fill⟩, hpadding, hcall⟩ := bind_eq_ok.mp hreturned
      exact ⟨padding, fill, hpadding, Operator.paddedInside_of_ok hfits hcall⟩

/-- A row is reflected behind its end after two of its elements were taken away in front. -/
theorem padding_agrees_mixed :
    let row : TensorArgs := { values := [
      ("self", .tensor (.float (Tensor.full [1, 4] 1))),
      ("pad", .list [.int (-2), .int 3]),
      ("mode", .str "reflect"),
      ("value", .none)] }
    ∃ operator, Operator.ofName? Single.spread "aten::pad" = some operator ∧
      Agree
        (Builtin.padFamily[1].call 0 {
          positional := [.tensor [1, 4], .list [.int (-2), .int 3], .str "reflect"],
          keywords := [] })
        (operator row) ∧
      Unbroken (operator row) ∧
      ∀ returned, operator row = .ok returned → ∃ padding fill,
        Operator.paddingOf "aten::pad" row = .ok (padding, fill) ∧
          Operator.PaddedInside padding row returned := by
  intro row
  refine @padding_agrees Single.spread Builtin.padFamily[1] (List.getElem_mem _) {
    positional := [.tensor (.float (Tensor.full [1, 4] 1)), .list [.int (-2), .int 3],
      .str "reflect"],
    keywords := [] } row rfl ?_ ?_ 0
  · exact .cons ⟨rfl, _, rfl⟩ (.cons ⟨rfl, [-2, 3], rfl⟩ (.cons ⟨rfl, _, rfl⟩
      (.cons ⟨rfl, .inl rfl⟩ .nil)))
  · intro input hinput
    obtain rfl : (Tensor.full [1, 4] 1 : Tensor Float32) = input := Except.ok.inj hinput
    show ∀ size ∈ [1, 4], size < 2 ^ 63
    decide

/-- **A dimension of 2⁶³ positions without pads is refused by the operator only**, which takes its
size for a negative number; the rule looks at no dimension without pads. -/
theorem padding_disagrees_on_oversized :
    let empty : Tensor Float32 := { sizes := [2 ^ 63, 0], data := #[], size_data := rfl }
    let unpadded : TensorArgs := { values := [
      ("self", .tensor (.float empty)),
      ("pad", .list []),
      ("value", .float 0)] }
    Builtin.padFamily[0].signature.WellTyped unpadded ∧
      ¬ ∃ operator, Operator.ofName? Single.spread "aten::constant_pad_nd" = some operator ∧
        Agree
          (Builtin.padFamily[0].call 0 {
            positional := [.tensor [2 ^ 63, 0], .list [], .float 0], keywords := [] })
          (operator unpadded) := by
  intro empty unpadded
  constructor
  · exact .cons ⟨rfl, _, rfl⟩ (.cons ⟨rfl, [], rfl⟩ (.cons ⟨rfl, .inl ⟨0, rfl⟩⟩ .nil))
  · rintro ⟨operator, hoperator, hagree⟩
    obtain rfl : Operator.constantPadOf = operator := Option.some.inj hoperator
    have hrefused : Operator.constantPadOf unpadded =
        Operator.invalid "Padded size is negative" := by rfl
    obtain ⟨tensor, htensor⟩ := (agree_iff.mp hagree).1.mp ⟨_, rfl⟩
    rw [hrefused] at htensor
    cases htensor

end OpShape
