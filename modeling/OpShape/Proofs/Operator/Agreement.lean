/-
# `OpShape.Proofs.Operator.Agreement` — a shape function and an operator on one call.

A shape function and an operator *agree* on a call if both give outputs of the same sizes, or if
neither gives any; it does not matter how they fail.  For a function that gives a single shape this
comes down to `Follows`: a rule on sizes is followed by an operator on tensors, whatever arguments
are bound, and of whatever kinds.
-/
import OpShape.Builtin.Entry
import OpShape.Operator.Args
import OpShape.Oracle.Reference
import OpShape.Proofs.Call.Bind
import OpShape.Proofs.Call.Kind
import OpShape.Proofs.Tensor.Offset

namespace OpShape

open Tensor (HasSizes)

/-! ## Agreement -/

/-- **The two sides of a call agree**: both give outputs of the same sizes, or neither gives any. -/
def Agree (shapes : ShapeResult (Returned Shape)) (tensors : OpResult (Returned RealTensor)) : Prop :=
  Alike (fun shapes tensors => shapes = tensors.map fun tensor => Shape.ofSizes tensor.sizes)
    shapes tensors

/-- The answer is a single tensor of floats with these sizes. -/
def SingleOf (sizes : Sizes) (returned : Returned RealTensor) : Prop :=
  ∃ tensor : Tensor Float32, returned = .one (.float tensor) ∧ tensor.sizes = sizes

/-- An operator follows a rule on the sizes of its tensors, for all bound arguments with sizes below
`limit` and integers that are signed words. -/
def Follows (limit : Nat) (operator : Operator) (rule : Builtin.ShapeArgs → ShapeResult Sizes) :
    Prop :=
  ∀ bound : TensorArgs, bound.Fits limit →
    Alike SingleOf (rule (bound.map RealTensor.sizes)) (operator bound)

/-- The answer is a single tensor with these sizes. -/
def OneOf (sizes : Sizes) (returned : Returned RealTensor) : Prop :=
  returned.map RealTensor.sizes = .one sizes

/-- The answer is a tuple of tensors with these sizes. -/
def ManyOf (sizes : List Sizes) (returned : Returned RealTensor) : Prop :=
  returned.map RealTensor.sizes = .many sizes

/-- Agreement in other words: one side answers exactly if the other one does, and the sizes of the
tensors are then those of the shapes. -/
theorem agree_iff {shapes : ShapeResult (Returned Shape)} {tensors : OpResult (Returned RealTensor)} :
    Agree shapes tensors ↔
      ((∃ shape, shapes = .ok shape) ↔ ∃ tensor, tensors = .ok tensor) ∧
        ∀ shape tensor, shapes = .ok shape → tensors = .ok tensor →
          shape = tensor.map fun tensor => Shape.ofSizes tensor.sizes :=
  alike_iff

theorem agree_of_oneOf {rule : Builtin.ShapeArgs → ShapeResult Sizes} {args : Builtin.ShapeArgs}
    {tensors : OpResult (Returned RealTensor)} (token : Nat) (h : Alike OneOf (rule args) tensors) :
    Agree (Builtin.one rule token args) tensors := by
  unfold Agree Builtin.one
  rw [← bind_pure tensors]
  apply h.bind
  intro sizes returned hone
  cases returned with
  | one tensor =>
    obtain rfl := Returned.one.inj hone
    rfl
  | many tensors => cases hone

/-- A tensor of floats is a tensor. -/
theorem Alike.oneOf {shapes : ShapeResult Sizes} {tensors : OpResult (Returned RealTensor)}
    (h : Alike SingleOf shapes tensors) : Alike OneOf shapes tensors := by
  apply h.imp
  rintro sizes _ ⟨tensor, rfl, rfl⟩
  rfl

theorem agree_of_singleOf {rule : Builtin.ShapeArgs → ShapeResult Sizes} {args : Builtin.ShapeArgs}
    {tensors : OpResult (Returned RealTensor)} (token : Nat) (h : Alike SingleOf (rule args) tensors) :
    Agree (Builtin.one rule token args) tensors :=
  agree_of_oneOf token h.oneOf

/-- The shapes of a tuple are those of its tensors. -/
theorem ManyOf.shapes {sizes : List Sizes} {returned : Returned RealTensor}
    (h : ManyOf sizes returned) :
    Returned.many (sizes.map Shape.ofSizes) =
      returned.map fun tensor => Shape.ofSizes tensor.sizes := by
  cases returned with
  | one tensor => cases h
  | many tensors =>
    obtain rfl := Returned.many.inj h
    show Returned.many ((tensors.map RealTensor.sizes).map Shape.ofSizes) = .many (tensors.map _)
    rw [List.map_map]
    rfl

theorem agree_of_manyOf {rule : Builtin.ShapeArgs → ShapeResult (List Sizes)}
    {args : Builtin.ShapeArgs} {tensors : OpResult (Returned RealTensor)} (token : Nat)
    (h : Alike ManyOf (rule args) tensors) : Agree (Builtin.many rule token args) tensors := by
  unfold Agree Builtin.many
  rw [← bind_pure tensors]
  exact h.bind fun _ _ hmany => hmany.shapes

/-- The function agrees with the operator of its name on these bound arguments, where the operator
draws from a stream. -/
def AgreesOn (draws : Draws) (function : ShapeFunction) (bound : TensorArgs) : Prop :=
  ∀ token, ∃ operator, Operator.ofName? draws function.op.text = some operator ∧
    Agree (function.compute token (bound.map RealTensor.sizes)) (operator bound)

section Entries

variable {op : OpName} {params : List Param} {invocations : List Invocation} {bound : TensorArgs}
variable {draws : Draws} {operator : Operator}

/-- A function that answers with one shape agrees with the operator that follows its rule. -/
theorem agreesOn_entry {rule : Builtin.ShapeArgs → ShapeResult Sizes}
    (hoperator : Operator.ofName? draws op.text = some operator)
    (h : Alike OneOf (rule (bound.map RealTensor.sizes)) (operator bound)) :
    AgreesOn draws (Builtin.entry op params 1 (Builtin.one rule) invocations) bound :=
  fun token => ⟨operator, hoperator, agree_of_oneOf token h⟩

/-- A function that answers with several shapes agrees with the operator that follows its rule. -/
theorem agreesOn_entry_many {returns : Nat} {rule : Builtin.ShapeArgs → ShapeResult (List Sizes)}
    (hoperator : Operator.ofName? draws op.text = some operator)
    (h : Alike ManyOf (rule (bound.map RealTensor.sizes)) (operator bound)) :
    AgreesOn draws (Builtin.entry op params returns (Builtin.many rule) invocations) bound :=
  fun token => ⟨operator, hoperator, agree_of_manyOf token h⟩

end Entries

/-- **The two sides of a call agree under a condition**: where the shape function fails so does the
operator; where both answer they give outputs of the same sizes; and where the shape function
answers so does the operator, provided that the condition holds. -/
def AgreeIf (p : Prop) (shapes : ShapeResult (Returned Shape))
    (tensors : OpResult (Returned RealTensor)) : Prop :=
  AlikeIf p (fun shapes tensors => shapes = tensors.map fun tensor => Shape.ofSizes tensor.sizes)
    shapes tensors

theorem agreeIf_iff {p : Prop} {shapes : ShapeResult (Returned Shape)}
    {tensors : OpResult (Returned RealTensor)} :
    AgreeIf p shapes tensors ↔
      ((∃ failure, shapes = .error failure) → ∃ failure, tensors = .error failure) ∧
        (p → ∀ shape, shapes = .ok shape → ∃ tensor, tensors = .ok tensor) ∧
        ∀ shape tensor, shapes = .ok shape → tensors = .ok tensor →
          shape = tensor.map fun tensor => Shape.ofSizes tensor.sizes := by
  unfold AgreeIf AlikeIf
  cases shapes <;> cases tensors <;> simp

theorem agreeIf_of_singleOf {rule : Builtin.ShapeArgs → ShapeResult Sizes}
    {args : Builtin.ShapeArgs} {tensors : OpResult (Returned RealTensor)} {p : Prop} (token : Nat)
    (h : AlikeIf p SingleOf (rule args) tensors) :
    AgreeIf p (Builtin.one rule token args) tensors := by
  unfold AgreeIf Builtin.one
  rw [← bind_pure tensors]
  apply h.bind
  rintro sizes _ ⟨tensor, rfl, rfl⟩
  rfl

theorem agreeIf_of_manyOf {rule : Builtin.ShapeArgs → ShapeResult (List Sizes)}
    {args : Builtin.ShapeArgs} {tensors : OpResult (Returned RealTensor)} {p : Prop} (token : Nat)
    (h : AlikeIf p ManyOf (rule args) tensors) :
    AgreeIf p (Builtin.many rule token args) tensors := by
  unfold AgreeIf Builtin.many
  rw [← bind_pure tensors]
  exact h.bind fun _ _ hmany => hmany.shapes

/-- A call of a shape function on sizes, once the call on tensors is bound. -/
theorem ShapeFunction.call_sizes {function : ShapeFunction} {args : CallArgs RealTensor}
    {bound : TensorArgs} (hbind : function.signature.bind args = .ok bound) (token : Nat) :
    function.call token (args.map RealTensor.sizes) =
      function.compute token (bound.map RealTensor.sizes) := by
  unfold call
  rw [Signature.bind_map, hbind]
  rfl

/-! ## The same arguments on both sides -/

section Lift

variable {α β : Type} {R : α → β → Prop}

theorem Alike.lift {x : Except BindError α} {y : Except BindError β} (h : Alike R x y) :
    Alike R (liftM x : ShapeResult α) (liftM y : OpResult β) := by
  cases x <;> cases y <;> exact h

theorem lift_ok (a : α) : (liftM (.ok a : Except BindError α) : ShapeResult α) = .ok a := rfl

theorem lift_ok_operator (a : α) : (liftM (.ok a : Except BindError α) : OpResult α) = .ok a := rfl

theorem lift_eq_ok {x : Except BindError α} {a : α} :
    (liftM x : OpResult α) = .ok a ↔ x = .ok a := by
  constructor
  · intro h
    cases x with
    | error e => cases h
    | ok b => rw [Except.ok.inj h]
  · rintro rfl
    rfl

/-- An argument that does not fit its use is refused. -/
theorem unbroken_lift (x : Except BindError α) : Unbroken (liftM x : OpResult α) := by
  cases x with
  | error e => exact unbroken_refuse (OpError.invalidArguments e)
  | ok a => exact unbroken_ok a

/-- A computation beside its image under a function. -/
theorem alike_map_self {ε : Type} {x : Except ε β} {f : β → α} (h : ∀ b, x = .ok b → R (f b) b) :
    Alike R (x.map f) x := by
  cases x with
  | error e => trivial
  | ok b => exact h b rfl

end Lift

theorem Operator.sizes_toInts (tensor : RealTensor) :
    (Operator.toInts tensor).sizes = tensor.sizes := by
  cases tensor <;> rfl

/-- The tensor has these sizes, all of which lie below `limit`. -/
def FitsSizes {α : Type} (limit : Nat) (sizes : Sizes) (tensor : Tensor α) : Prop :=
  tensor.sizes = sizes ∧ ∀ size ∈ sizes, size < limit

section Args

variable {limit : Nat} {bound : TensorArgs} (name : String)

theorem alike_tensor (h : bound.Fits limit) :
    Alike (fun sizes (tensor : RealTensor) => tensor.sizes = sizes ∧ ∀ size ∈ sizes, size < limit)
      (liftM ((bound.map RealTensor.sizes).tensor name) : ShapeResult Sizes)
      (liftM (bound.tensor name) : OpResult RealTensor) := by
  rw [BoundArgs.tensor_map]
  refine Alike.lift (alike_map_self ?_)
  intro tensor htensor
  exact ⟨rfl, h.tensor htensor⟩

/-- A tensor that is there has its sizes in the other world. -/
theorem tensor_sizes {tensor : RealTensor} (h : bound.tensor name = .ok tensor) :
    (bound.map RealTensor.sizes).tensor name = .ok tensor.sizes := by
  rw [BoundArgs.tensor_map, h]
  rfl

theorem floatArg_eq {tensor : RealTensor} (h : bound.tensor name = .ok tensor) :
    Operator.floatArg bound name = .ok tensor.toFloats := by
  unfold Operator.floatArg
  rw [h]
  rfl

theorem intArg_eq {tensor : RealTensor} (h : bound.tensor name = .ok tensor) :
    Operator.intArg bound name = .ok (Operator.toInts tensor) := by
  unfold Operator.intArg
  rw [h]
  rfl

theorem optFloatArg_eq {tensor : Option RealTensor} (h : bound.optTensor name = .ok tensor) :
    Operator.optFloatArg bound name = .ok (tensor.map RealTensor.toFloats) := by
  unfold Operator.optFloatArg
  rw [h]
  rfl

theorem singleArg_eq {value : Float} (h : bound.float name = .ok value) :
    Operator.singleArg bound name = .ok value.toFloat32 := by
  unfold Operator.singleArg
  rw [h]
  rfl

/-- A tensor is the same on both sides, of whatever sizes. -/
theorem alike_whole (bound : TensorArgs) :
    Alike (fun sizes (tensor : RealTensor) => tensor.sizes = sizes)
      (liftM ((bound.map RealTensor.sizes).tensor name) : ShapeResult Sizes)
      (liftM (bound.tensor name) : OpResult RealTensor) := by
  rw [BoundArgs.tensor_map]
  exact Alike.lift (alike_map_self fun _ _ => rfl)

theorem alike_floats (bound : TensorArgs) :
    Alike HasSizes
      (liftM ((bound.map RealTensor.sizes).tensor name) : ShapeResult Sizes)
      (Operator.floatArg bound name) := by
  apply (alike_whole name bound).bind_right
  rintro _ tensor rfl
  exact tensor.sizes_toFloats

theorem alike_wholeInts (bound : TensorArgs) :
    Alike HasSizes
      (liftM ((bound.map RealTensor.sizes).tensor name) : ShapeResult Sizes)
      (Operator.intArg bound name) := by
  apply (alike_whole name bound).bind_right
  rintro _ tensor rfl
  exact Operator.sizes_toInts tensor

theorem alike_floatArg (h : bound.Fits limit) :
    Alike (FitsSizes limit)
      (liftM ((bound.map RealTensor.sizes).tensor name) : ShapeResult Sizes)
      (Operator.floatArg bound name) := by
  apply (alike_tensor name h).bind_right
  rintro sizes tensor ⟨rfl, hsizes⟩
  exact ⟨tensor.sizes_toFloats, hsizes⟩

theorem alike_optFloatArg (bound : TensorArgs) :
    Alike (fun sizes (tensor : Option (Tensor Float32)) => sizes = tensor.map Tensor.sizes)
      (liftM ((bound.map RealTensor.sizes).optTensor name) : ShapeResult (Option Sizes))
      (Operator.optFloatArg bound name) := by
  have h : Alike (fun sizes (tensor : Option RealTensor) => sizes = tensor.map RealTensor.sizes)
      (liftM ((bound.map RealTensor.sizes).optTensor name) : ShapeResult (Option Sizes))
      (liftM (bound.optTensor name) : OpResult (Option RealTensor)) := by
    rw [BoundArgs.optTensor_map]
    exact Alike.lift (alike_map_self fun _ _ => rfl)
  apply h.bind_right
  rintro sizes tensor rfl
  cases tensor with
  | none => rfl
  | some tensor => exact congrArg some tensor.sizes_toFloats.symm

theorem alike_tensors (bound : TensorArgs) :
    Alike (fun sizes (tensors : List RealTensor) => sizes = tensors.map RealTensor.sizes)
      (liftM ((bound.map RealTensor.sizes).tensors name) : ShapeResult (List Sizes))
      (liftM (bound.tensors name) : OpResult (List RealTensor)) := by
  rw [BoundArgs.tensors_map]
  exact Alike.lift (alike_map_self fun _ _ => rfl)

theorem alike_optTensors (bound : TensorArgs) :
    Alike (fun sizes (tensors : List (Option RealTensor)) =>
        sizes = tensors.map (Option.map RealTensor.sizes))
      (liftM ((bound.map RealTensor.sizes).optTensors name) : ShapeResult (List (Option Sizes)))
      (liftM (bound.optTensors name) : OpResult (List (Option RealTensor))) := by
  rw [BoundArgs.optTensors_map]
  exact Alike.lift (alike_map_self fun _ _ => rfl)

/-- Arguments that hold no tensor are the same on both sides. -/
theorem alike_self {α : Type} (x : Except BindError α) :
    Alike Eq (liftM x : ShapeResult α) (liftM x : OpResult α) := by
  cases x with
  | error e => trivial
  | ok a => rfl

theorem alike_int (bound : TensorArgs) :
    Alike Eq (liftM ((bound.map RealTensor.sizes).int name) : ShapeResult Int)
      (liftM (bound.int name) : OpResult Int) := by
  rw [BoundArgs.int_map]
  exact alike_self _

theorem alike_optInt (bound : TensorArgs) :
    Alike Eq (liftM ((bound.map RealTensor.sizes).optInt name) : ShapeResult (Option Int))
      (liftM (bound.optInt name) : OpResult (Option Int)) := by
  rw [BoundArgs.optInt_map]
  exact alike_self _

theorem alike_bool (bound : TensorArgs) :
    Alike Eq (liftM ((bound.map RealTensor.sizes).bool name) : ShapeResult Bool)
      (liftM (bound.bool name) : OpResult Bool) := by
  rw [BoundArgs.bool_map]
  exact alike_self _

theorem alike_str (bound : TensorArgs) :
    Alike Eq (liftM ((bound.map RealTensor.sizes).str name) : ShapeResult String)
      (liftM (bound.str name) : OpResult String) := by
  rw [BoundArgs.str_map]
  exact alike_self _

/-- Lists of integers are the same on both sides, and the integers are words. -/
theorem alike_ints (h : bound.Fits limit) :
    Alike (fun values others => values = others ∧ ∀ value ∈ values, value < 2 ^ 63)
      (liftM ((bound.map RealTensor.sizes).ints name) : ShapeResult (List Int))
      (liftM (bound.ints name) : OpResult (List Int)) := by
  rw [BoundArgs.ints_map]
  cases hints : bound.ints name with
  | error e => trivial
  | ok values => exact ⟨rfl, h.ints hints⟩

end Args

/-! ## Axes and positions -/

/-- **The two sides name dimensions alike**, and what they name is there, where a scalar counts as
a vector. -/
theorem alike_axis (dim : Int) (rank : Nat) :
    Alike (fun named axis => named = axis ∧ axis < max rank 1) (Rule.resolveDim dim rank)
      (Operator.resolveAxis rank dim) := by
  -- The two sides say in different words that a scalar has one dimension.
  have hspan : (if rank = 0 then 1 else rank : Int) = (max rank 1 : Nat) := by
    split <;> omega
  unfold Rule.resolveDim Operator.resolveAxis
  simp only [hspan]
  have hbound : max (rank : Int) 1 = (max rank 1 : Nat) := by omega
  simp only [hbound]
  by_cases hout : dim < -((max rank 1 : Nat) : Int) ∨ ((max rank 1 : Nat) : Int) ≤ dim
  · rw [if_pos hout, if_pos hout]
    exact alike_error_error
  · rw [if_neg hout, if_neg hout]
    by_cases hneg : dim < 0
    · rw [if_pos hneg, if_pos hneg]
      exact ⟨rfl, by omega⟩
    · rw [if_neg hneg, if_neg hneg]
      exact ⟨rfl, by omega⟩

/-- Where there are dimensions, an axis is one of them. -/
theorem Operator.axis_lt {sizes : Sizes} {dim : Int} {axis : Nat} (hrank : sizes ≠ [])
    (haxis : Operator.resolveAxis sizes.length dim = .ok axis) : axis < sizes.length := by
  obtain ⟨_, -, -, hlt⟩ := (alike_axis dim sizes.length).of_right haxis
  have hpos := List.length_pos_of_ne_nil hrank
  omega

/-- A scalar has the axis of a vector with one element. -/
theorem Operator.resolveAxis_scalar {dim : Int} :
    (∃ axis, resolveAxis 0 dim = .ok axis) ↔ -1 ≤ dim ∧ dim < 1 := by
  unfold resolveAxis
  rw [if_pos rfl]
  by_cases hout : dim < -1 ∨ 1 ≤ dim
  · rw [if_pos hout]
    refine ⟨fun ⟨_, h⟩ => (by cases h), ?_⟩
    omega
  · rw [if_neg hout]
    refine ⟨fun _ => by omega, fun _ => ?_⟩
    split
    · exact ⟨_, rfl⟩
    · exact ⟨_, rfl⟩

theorem signed_eq (size : Nat) : signed size = (size : Int).bmod (2 ^ 64) := rfl

/-- Sizes that are words are told apart by their signed words. -/
theorem signed_inj {size other : Nat} (hsize : size < 2 ^ 64) (hother : other < 2 ^ 64)
    (h : signed size = signed other) : size = other := by
  have hmod : (size : Int) % (2 ^ 64 : Nat) = other % (2 ^ 64 : Nat) := by
    have hbmod := congrArg (· % ((2 ^ 64 : Nat) : Int)) h
    simpa only [signed_eq, Int.bmod_emod] using hbmod
  rw [Int.emod_eq_of_lt (by omega) (by omega), Int.emod_eq_of_lt (by omega) (by omega)] at hmod
  exact Int.ofNat.inj hmod

theorem sizes_eq_of_signed {sizes others : Sizes} (hsizes : ∀ size ∈ sizes, size < 2 ^ 64)
    (hothers : ∀ size ∈ others, size < 2 ^ 64) (h : sizes.map signed = others.map signed) :
    sizes = others := by
  induction sizes generalizing others with
  | nil => rw [List.map_eq_nil_iff.mp h.symm]
  | cons size sizes ih =>
    cases others with
    | nil => cases h
    | cons other others =>
      rw [List.forall_mem_cons] at hsizes hothers
      rw [List.map_cons, List.map_cons, List.cons.injEq] at h
      rw [signed_inj hsizes.1 hothers.1 h.1, ih hsizes.2 hothers.2 h.2]

/-- A size of half the range is the same number as a signed word. -/
theorem signed_of_lt {size : Nat} (h : size < 2 ^ 63) : signed size = size := by
  rw [signed_eq, Int.bmod_def, Int.emod_eq_of_lt (by omega) (by omega)]
  split <;> omega

/-- A number that is a word is kept. -/
theorem toWord_of_mem {value : Int} (hlow : -2 ^ 63 ≤ value) (hhigh : value < 2 ^ 63) :
    toWord value = value := by
  unfold toWord
  exact Int.bmod_eq_of_le_mul_two (by simp; omega) (by simp; omega)

/-- A number behind the words comes round as a negative one. -/
theorem toWord_of_ge {value : Int} (hlow : 2 ^ 63 ≤ value) (hhigh : value < 2 ^ 64) :
    toWord value = value - 2 ^ 64 := by
  show value.bmod (2 ^ 64) = _
  rw [Int.bmod_def, Int.emod_eq_of_lt (by omega) (by omega), if_neg (by omega)]
  rfl

/-- Whether a size is a word already makes no difference to the word of a number less by some. -/
theorem toWord_signed_sub (size : Nat) (less : Int) : toWord (signed size - less) = toWord (size - less) :=
  Int.bmod_sub_bmod

/-- One of the first 2³¹ positions is kept as it is. -/
theorem Operator.wrapInt_of_lt {position : Nat} (h : position < 2 ^ 31) :
    wrapInt position = position := by
  unfold wrapInt
  exact Int.bmod_eq_of_le_mul_two (by simp; omega) (by simp; omega)

/-- A word that is not negative stands for the same size. -/
theorem wordSize_of_mem {word : Int} (hlow : 0 ≤ word) (hhigh : word < 2 ^ 64) :
    wordSize word = word.toNat := by
  unfold wordSize
  rw [Int.emod_eq_of_lt hlow (by simpa using hhigh)]

theorem signed_le (size : Nat) : signed size ≤ size := by
  have hmod : ((size % 2 ^ 64 : Nat) : Int) ≤ size := Int.ofNat_le.mpr (Nat.mod_le size (2 ^ 64))
  rw [Int.natCast_emod] at hmod
  rw [signed_eq, Int.bmod_def]
  split <;> omega

theorem signed_lt (size : Nat) : signed size < 2 ^ 63 := by
  have h : (size : Int).bmod (2 ^ 64) < ((2 ^ 64 : Nat) + 1) / 2 := Int.bmod_lt (by decide)
  rw [signed_eq]
  omega

/-- **The two sides name positions alike**, and what they name lies below the size. -/
theorem resolveIndex_cases (index : Int) (size : Nat) :
    (∃ position, Rule.resolveIndex index size = .ok position ∧
        Operator.resolveIndex index size = .ok position ∧ position < size) ∨
      ∃ failure failure', Rule.resolveIndex index size = .error failure ∧
        Operator.resolveIndex index size = .error failure' := by
  have hspan := signed_le size
  unfold Rule.resolveIndex Operator.resolveIndex
  generalize signed size = span at hspan
  by_cases hout : index < -span ∨ span ≤ index
  · simp only [if_pos hout]
    exact .inr ⟨_, _, rfl, rfl⟩
  · simp only [if_neg hout]
    by_cases hneg : index < 0
    · simp only [if_pos hneg]
      exact .inl ⟨_, rfl, rfl, by omega⟩
    · simp only [if_neg hneg]
      exact .inl ⟨_, rfl, rfl, by omega⟩

/-! ## Answers of one tensor -/

/-- A rule is followed up to the last step of an operator, which wraps its tensor up. -/
theorem Alike.single {shapes : ShapeResult Sizes} {x : OpResult (Tensor Float32)}
    (h : Alike HasSizes shapes x) : Alike SingleOf shapes (do Operator.one (← x)) := by
  apply h.bind_right
  intro sizes tensor hsizes
  exact ⟨tensor, rfl, hsizes⟩

/-- The same for a tensor of integers. -/
theorem Alike.singleInt {shapes : ShapeResult Sizes} {x : OpResult (Tensor Int)}
    (h : Alike HasSizes shapes x) : Alike OneOf shapes (do Operator.oneInt (← x)) := by
  apply h.bind_right
  intro sizes tensor hsizes
  exact congrArg Returned.one hsizes

/-- The same under a condition. -/
theorem AlikeIf.single {p : Prop} {shapes : ShapeResult Sizes} {x : OpResult (Tensor Float32)}
    (h : AlikeIf p HasSizes shapes x) : AlikeIf p SingleOf shapes (do Operator.one (← x)) := by
  apply h.bind_right
  intro sizes tensor hsizes
  exact ⟨tensor, rfl, hsizes⟩

end OpShape
