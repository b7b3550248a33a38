/-
# `OpShape.Proofs.Operator.IndexSelect` — a list of positions of one dimension.

Elements are picked at the positions of a vector, or at a single one.  The two sides agree wherever
there is a dimension to pick from.  Of a scalar the rule wants exactly one position, while the
operator hands it back without looking at the positions at all.
-/
import OpShape.Proofs.Operator.Index

namespace OpShape.Operator

open Tensor (HasSizes answers_at? answers_ofIndices)

variable {α : Type}

attribute [local irreducible] signed

/-! ## Picking -/

/-- **Positions of an axis are picked**, and as many of them take the place of its size. -/
theorem answers_pick {input : Tensor α} {axis : Nat} {positions : List Nat}
    (haxis : axis < input.sizes.length)
    (hpositions : ∀ position ∈ positions, position < sizeAt input.sizes axis) :
    Answers (HasSizes (input.sizes.set axis positions.length)) (pick input axis positions) := by
  unfold pick
  rw [Checked.set_of_lt haxis, ok_bind]
  refine answers_ofIndices fun index hinside => ?_
  obtain ⟨haxis', hlt⟩ := hinside.coordinate_set haxis
  rw [Checked.get_of_lt haxis', ok_bind, Checked.get_of_lt hlt, ok_bind]
  exact answers_at? (inside_set hinside (hpositions _ (List.getElem_mem hlt)))

/-- The positions of an index tensor are in range of the dimension that an axis names. -/
def SelectsInRange (sizes : Sizes) (dim : Int) (index : Tensor Int) : Prop :=
  ∀ axis size, resolveAxis sizes.length dim = .ok axis → sizes[axis]? = some size →
    InRange size index

/-- **Picking follows its rule** where there is a dimension to pick from. -/
theorem pick_alike {input : Tensor Float32} {index : Tensor Int} {dim : Int}
    (hsizes : ∀ size ∈ input.sizes, size < 2 ^ 63) (hscalar : input.sizes ≠ []) :
    AlikeIf (SelectsInRange input.sizes dim index) SingleOf
      (do
        let axis ← Rule.resolveDim dim input.sizes.length
        Checked.set input.sizes axis (elementCount index.sizes))
      (do
        let axis ← resolveAxis input.sizes.length dim
        let size ← Checked.get input.sizes axis
        let positions ← index.data.toList.mapM fun i => resolveIndex i size
        one (← pick input axis positions)) := by
  apply (alike_axis dim input.sizes.length).and_eq_ok.bind_if
  rintro axis _ ⟨⟨rfl, haxis⟩, hnamed⟩
  have hlt : axis < input.sizes.length := by
    have hpos : 0 < input.sizes.length := List.length_pos_iff.mpr hscalar
    omega
  rw [Checked.set_of_lt hlt, Checked.get_of_lt hlt, ok_bind]
  have hsize : input.sizes[axis] < 2 ^ 63 := hsizes _ (List.getElem_mem hlt)
  have hpositions : AnswersIf (SelectsInRange input.sizes dim index)
      (List.Forall₂ (fun _ position => position < input.sizes[axis]) index.data.toList)
      (index.data.toList.mapM fun i => resolveIndex i input.sizes[axis]) := by
    refine AnswersIf.mapM fun i hi =>
      (answersIf_resolveIndex input.sizes[axis] i).of_imp fun hrange => ⟨hsize, ?_⟩
    exact hrange axis _ hnamed (List.getElem?_eq_getElem hlt) i (Array.mem_toList_iff.mp hi)
  refine AnswersIf.alikeIf (hpositions.bind fun positions hpicked => ?_)
  obtain ⟨hlength, hbelow⟩ := forall₂_right_iff.mp hpicked
  have hbelow' : ∀ position ∈ positions, position < sizeAt input.sizes axis := by
    intro position hposition
    simpa [sizeAt, List.getElem?_eq_getElem hlt] using hbelow position hposition
  refine ((answers_pick hlt hbelow').bind fun output houtput => ?_).answersIf _
  refine ⟨output, rfl, houtput.trans ?_⟩
  rw [← hlength, Array.length_toList, index.size_data]

/-! ## Scalars -/

/-- Some other number of positions than one is picked of a scalar, along the axis that it has. -/
structure PicksOddly (sizes : Sizes) (dim : Int) (index : Sizes) : Prop where
  scalar : sizes = []
  rank : index.length ≤ 1
  count : elementCount index ≠ 1
  axis : -1 ≤ dim ∧ dim < 1

section Calls

variable {bound : TensorArgs} {input index : RealTensor} {dim : Int}
variable (hinput : bound.tensor "self" = .ok input) (hdim : bound.int "dim" = .ok dim)
  (hindex : bound.tensor "index" = .ok index)
include hinput hdim hindex

theorem indexSelected_eq :
    Builtin.withIndex Rule.indexSelect (bound.map RealTensor.sizes) =
      Rule.indexSelect input.sizes dim index.sizes := by
  unfold Builtin.withIndex
  rw [tensor_sizes "self" hinput, tensor_sizes "index" hindex, BoundArgs.int_map, hdim]
  rfl

/-- **Positions are selected by their rule**, unless they are picked oddly. -/
theorem indexSelectOf_alike (hfits : bound.Fits (2 ^ 63))
    (hodd : ¬ PicksOddly input.sizes dim index.sizes) :
    AlikeIf (SelectsInRange input.sizes dim (toInts index)) SingleOf
      (Rule.indexSelect input.sizes dim index.sizes) (indexSelectOf bound) := by
  unfold Rule.indexSelect indexSelectOf
  rw [floatArg_eq "self" hinput, intArg_eq "index" hindex, hdim]
  simp only [lift_ok_operator, ok_bind, sizes_toInts, RealTensor.sizes_toFloats]
  by_cases hrank : 1 < index.sizes.length
  · rw [if_pos hrank, if_pos hrank]
    trivial
  rw [if_neg hrank, if_neg hrank]
  by_cases hscalar : input.sizes = []
  · simp only [hscalar, List.isEmpty_nil, if_true, List.length_nil]
    apply (alike_axis dim 0).and_eq_ok.bind_if
    rintro axis _ ⟨⟨rfl, -⟩, hnamed⟩
    have hcount : elementCount index.sizes = 1 := by
      by_contra hcount
      exact hodd ⟨hscalar, Nat.not_lt.mp hrank, hcount, resolveAxis_scalar.mp ⟨axis, hnamed⟩⟩
    rw [if_neg (not_not_intro hcount)]
    exact ⟨input.toFloats, rfl, input.sizes_toFloats.trans hscalar⟩
  · have halike := @pick_alike input.toFloats (toInts index) dim
    rw [input.sizes_toFloats, sizes_toInts] at halike
    have hempty : input.sizes.isEmpty = false := List.isEmpty_eq_false_iff.mpr hscalar
    simp only [hempty, Bool.false_eq_true, if_false]
    exact halike (hfits.tensor hinput) hscalar

/-- **Odd picks are refused by the rule only**: the operator hands the scalar back. -/
theorem picksOddly_disagree (hodd : PicksOddly input.sizes dim index.sizes) :
    (∃ failure, Rule.indexSelect input.sizes dim index.sizes = .error failure) ∧
      indexSelectOf bound = .ok (.one (.float input.toFloats)) := by
  obtain ⟨axis, haxis⟩ := resolveAxis_scalar.mpr hodd.axis
  constructor
  · obtain ⟨named, hnamed, -⟩ := (alike_axis dim 0).of_right haxis
    unfold Rule.indexSelect
    rw [if_neg (Nat.not_lt.mpr hodd.rank), hodd.scalar, List.length_nil, hnamed, ok_bind]
    simp only [List.isEmpty_nil, if_true, if_pos hodd.count]
    exact ⟨_, rfl⟩
  · unfold indexSelectOf
    rw [floatArg_eq "self" hinput, intArg_eq "index" hindex, hdim]
    simp only [lift_ok_operator, ok_bind, sizes_toInts, RealTensor.sizes_toFloats]
    rw [if_neg (Nat.not_lt.mpr hodd.rank), hodd.scalar, List.length_nil, haxis]
    rfl

end Calls

/-! ## Calls -/

/-- The positions of a call are in range of the dimension that it names. -/
def SelectArgsInRange (bound : TensorArgs) : Prop :=
  ∀ input dim index, bound.tensor "self" = .ok input → bound.int "dim" = .ok dim →
    bound.tensor "index" = .ok index → SelectsInRange input.sizes dim (toInts index)

/-- A call that picks some other number of positions than one of a scalar. -/
def OddCall (bound : TensorArgs) : Prop :=
  ∃ input dim index, bound.tensor "self" = .ok input ∧ bound.int "dim" = .ok dim ∧
    bound.tensor "index" = .ok index ∧ PicksOddly input.sizes dim index.sizes

end OpShape.Operator

namespace OpShape

variable {draws : Draws}

/-! ## Agreement -/

/-- **The two sides of a selection agree on just those well typed calls that do not pick oddly of a
scalar**: of tensors of any ranks, every size below 2⁶³, with positions of any number that are in
range.  A larger size is taken for a negative number by the operator, which then finds no position
in it. -/
theorem indexSelect_agrees_iff {function : ShapeFunction}
    (hfunction : function ∈ Builtin.indexFamily) (hop : function.op = Builtin.aten "index_select")
    {args : CallArgs RealTensor} {bound : TensorArgs}
    (hbind : function.signature.bind args = .ok bound)
    (htyped : function.signature.WellTyped bound) (hfits : bound.Fits (2 ^ 63)) (token : Nat) :
    ∃ operator, Operator.ofName? draws function.op.text = some operator ∧
      (AgreeIf (Operator.SelectArgsInRange bound)
          (function.call token (args.map RealTensor.sizes)) (operator bound) ↔
        ¬ Operator.OddCall bound) := by
  rw [ShapeFunction.call_sizes hbind]
  have hentry : function = Builtin.indexFamily[3] := by
    unfold Builtin.indexFamily at hfunction
    simp only [List.mem_cons, List.not_mem_nil, or_false] at hfunction
    rcases hfunction with rfl | rfl | rfl | rfl | rfl | rfl | rfl | rfl | rfl
    all_goals first | rfl | exact absurd hop (by decide)
  subst hentry
  obtain ⟨input, hinput⟩ := htyped.tensor "self" rfl rfl
  obtain ⟨dim, hdim⟩ := htyped.int "dim" rfl rfl
  obtain ⟨index, hindex⟩ := htyped.tensor "index" rfl rfl
  have hrule := Operator.indexSelected_eq hinput hdim hindex
  refine ⟨Operator.indexSelectOf, rfl, ?_, ?_⟩
  · rintro hagree ⟨input', dim', index', hinput', hdim', hindex', hodd⟩
    obtain rfl := Except.ok.inj (hinput.symm.trans hinput')
    obtain rfl := Except.ok.inj (hdim.symm.trans hdim')
    obtain rfl := Except.ok.inj (hindex.symm.trans hindex')
    obtain ⟨⟨failure, hfailure⟩, hanswer⟩ :=
      Operator.picksOddly_disagree hinput hdim hindex hodd
    have hrefused : Builtin.one (Builtin.withIndex Rule.indexSelect) token
        (bound.map RealTensor.sizes) = .error failure := by
      unfold Builtin.one
      rw [hrule, hfailure]
      rfl
    obtain ⟨failure', hfailure'⟩ := (agreeIf_iff.mp hagree).1 ⟨failure, hrefused⟩
    rw [hanswer] at hfailure'
    cases hfailure'
  · intro hodd
    have hplain : ¬ Operator.PicksOddly input.sizes dim index.sizes :=
      fun h => hodd ⟨input, dim, index, hinput, hdim, hindex, h⟩
    have halike := Operator.indexSelectOf_alike hinput hdim hindex hfits hplain
    rw [← hrule] at halike
    refine agreeIf_of_singleOf token (halike.of_imp ?_)
    intro hrange
    exact hrange input dim index hinput hdim hindex

/-- Two columns of a matrix are picked, one of them counted from the end; nothing is picked of a
scalar. -/
theorem indexSelect_agrees_iff_columns :
    let columns : TensorArgs := { values := [
      ("self", .tensor (.float (Tensor.full [3, 4] 1))),
      ("dim", .int (-1)),
      ("index", .tensor (.int (Tensor.vector [0, -1])))] }
    (∃ operator, Operator.ofName? Single.spread "aten::index_select" = some operator ∧
      (AgreeIf (Operator.SelectArgsInRange columns)
          (Builtin.indexFamily[3].call 0
            { positional := [.tensor [3, 4], .int (-1), .tensor [2]], keywords := [] })
          (operator columns) ↔
        ¬ Operator.OddCall columns)) ∧
      ¬ Operator.OddCall columns := by
  intro columns
  constructor
  · refine @indexSelect_agrees_iff Single.spread Builtin.indexFamily[3] (List.getElem_mem _) rfl {
      positional := [
        .tensor (.float (Tensor.full [3, 4] 1)), .int (-1),
        .tensor (.int (Tensor.vector [0, -1]))],
      keywords := [] } columns rfl ?_ ?_ 0
    · exact .cons ⟨rfl, _, rfl⟩ (.cons ⟨rfl, -1, rfl⟩ (.cons ⟨rfl, _, rfl⟩ .nil))
    · exact .cons (.ofSizes [3, 4] rfl (by decide)) (.cons (.int (by decide) (by decide)) (.cons
        (.ofSizes [2] rfl (by decide)) .nil))
  · rintro ⟨input, dim, index, hinput, -, -, hodd⟩
    obtain rfl : RealTensor.float (Tensor.full [3, 4] 1) = input := Except.ok.inj hinput
    cases hodd.scalar

/-- Two positions are picked of a scalar: the rule refuses, and the operator answers. -/
theorem indexSelect_disagrees_on_scalar :
    let scalar : TensorArgs := { values := [
      ("self", .tensor (.float (Tensor.full [] 1))),
      ("dim", .int 0),
      ("index", .tensor (.int (Tensor.full [2] 1)))] }
    Builtin.indexFamily[3].signature.WellTyped scalar ∧
      ¬ ∃ operator, Operator.ofName? Single.spread "aten::index_select" = some operator ∧
        AgreeIf (Operator.SelectArgsInRange scalar)
          (Builtin.indexFamily[3].call 0
            { positional := [.tensor [], .int 0, .tensor [2]], keywords := [] })
          (operator scalar) := by
  intro scalar
  constructor
  · exact .cons ⟨rfl, _, rfl⟩ (.cons ⟨rfl, 0, rfl⟩ (.cons ⟨rfl, _, rfl⟩ .nil))
  · rintro ⟨operator, hoperator, hagree⟩
    obtain rfl : Operator.indexSelectOf = operator := Option.some.inj hoperator
    have hodd : Operator.PicksOddly [] 0 [2] := ⟨rfl, by decide, by decide, by decide⟩
    obtain ⟨-, hanswer⟩ := @Operator.picksOddly_disagree scalar _ _ _ rfl rfl rfl hodd
    obtain ⟨failure, hfailure⟩ := (agreeIf_iff.mp hagree).1 ⟨_, rfl⟩
    rw [hanswer] at hfailure
    cases hfailure

end OpShape
