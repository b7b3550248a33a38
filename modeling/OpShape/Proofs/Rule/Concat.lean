/-
# `OpShape.Proofs.Rule.Concat` — concatenation in any grouping.

What shapes give when they are put behind each other is said without an order: the output has the
sizes of each of them in all dimensions but one, and in that one the sum of theirs.  Some of the
shapes may therefore be put behind each other first, and what they give may stand in their place.
Empty vectors are left out before anything is compared, on either way: what shapes give is an empty
vector only if all of them are.
-/
import Mathlib.Algebra.BigOperators.Ring.List
import Mathlib.Algebra.Order.BigOperators.Group.List
import Mathlib.Algebra.Order.Ring.Nat
import OpShape.Proofs.Operator.Concat
import OpShape.Proofs.Rule.Unbroken

namespace OpShape

theorem totalSize_eq_sum (sizes : Sizes) : totalSize sizes = sizes.sum := by
  induction sizes with
  | nil => rfl
  | cons size sizes ih => rw [totalSize_cons, ih, List.sum_cons]

/-! ## Shapes that match each other -/

namespace Operator

theorem Matches.symm {a b : Sizes} {axis : Nat} (h : Matches a axis b) : Matches b axis a where
  length := h.length.symm
  get dim hdim := (h.get dim hdim).symm

theorem Matches.trans {a b c : Sizes} {axis : Nat} (hab : Matches a axis b)
    (hbc : Matches b axis c) : Matches a axis c where
  length := hbc.length.trans hab.length
  get dim hdim := (hbc.get dim hdim).trans (hab.get dim hdim)

/-- A shape that matches is known once its size along the axis is. -/
theorem Matches.eq {a b : Sizes} {axis : Nat} (h : Matches a axis b) (haxis : axis < a.length)
    (hsize : sizeAt b axis = sizeAt a axis) : b = a := by
  apply List.ext_getElem?
  intro dim
  by_cases hdim : dim = axis
  · subst hdim
    have haxis' : dim < b.length := by
      rw [h.length]
      exact haxis
    unfold sizeAt at hsize
    rw [List.getElem?_eq_getElem haxis, List.getElem?_eq_getElem haxis'] at hsize ⊢
    exact congrArg some hsize
  · exact h.get dim hdim

end Operator

/-! ## Sizes that are put behind each other -/

namespace Rule

open Operator (Matches all_zipIdx_iff catSteps_alike matches_set requireMatch)

/-- **What shapes give behind each other along an axis**: the sizes of each of them in the other
dimensions, and the sum of their sizes along the axis. -/
structure Joins (axis : Nat) (shapes : List Sizes) (output : Sizes) : Prop where
  axis_lt : axis < output.length
  same : ∀ shape ∈ shapes, Matches output axis shape
  total : sizeAt output axis = totalSize (shapes.map (sizeAt · axis))

section Joins

variable {axis : Nat} {shapes others : List Sizes} {shape output : Sizes}

/-- The order does not matter. -/
theorem Joins.perm (h : Joins axis shapes output) (hperm : shapes.Perm others) :
    Joins axis others output where
  axis_lt := h.axis_lt
  same shape hshape := h.same shape (hperm.mem_iff.mpr hshape)
  total := by
    rw [h.total]
    exact totalSize_perm (hperm.map _)

/-- **What some shapes give stands in their place.** -/
theorem Joins.replace (h : Joins axis shapes shape) (hsome : shapes ≠ []) :
    Joins axis (shape :: others) output ↔ Joins axis (shapes ++ others) output := by
  have hsum : totalSize ((shapes ++ others).map (sizeAt · axis)) =
      totalSize ((shape :: others).map (sizeAt · axis)) := by
    rw [List.map_append, totalSize_eq_sum, List.sum_append, ← totalSize_eq_sum, ← totalSize_eq_sum,
      ← h.total, List.map_cons, totalSize_cons]
  constructor
  · intro hjoins
    refine ⟨hjoins.axis_lt, ?_, hjoins.total.trans hsum.symm⟩
    intro other hother
    rcases List.mem_append.mp hother with hfirst | hrest
    · exact (hjoins.same shape List.mem_cons_self).trans (h.same other hfirst)
    · exact hjoins.same other (List.mem_cons_of_mem _ hrest)
  · intro hjoins
    refine ⟨hjoins.axis_lt, List.forall_mem_cons.mpr ⟨?_, ?_⟩, hjoins.total.trans hsum⟩
    -- One of the shapes matches both what they give and what all of them give.
    · obtain ⟨other, hother⟩ := List.exists_mem_of_ne_nil shapes hsome
      exact (hjoins.same other (List.mem_append_left _ hother)).trans (h.same other hother).symm
    · exact fun other hother => hjoins.same other (List.mem_append_right _ hother)

/-- Only one shape comes out. -/
theorem Joins.unique {output' : Sizes} (h : Joins axis shapes output)
    (h' : Joins axis shapes output') (hsome : shapes ≠ []) : output = output' := by
  obtain ⟨shape, hshape⟩ := List.exists_mem_of_ne_nil shapes hsome
  have hmatch := (h'.same shape hshape).trans (h.same shape hshape).symm
  exact hmatch.eq h'.axis_lt (h.total.trans h'.total.symm)

/-- Some of the shapes can always be put behind each other first. -/
theorem Joins.part (h : Joins axis shapes output) (hsub : others ⊆ shapes) :
    Joins axis others (output.set axis (totalSize (others.map (sizeAt · axis)))) where
  axis_lt := by
    rw [List.length_set]
    exact h.axis_lt
  same other hother := (matches_set output axis _).symm.trans (h.same other (hsub hother))
  total := sizeAt_set h.axis_lt _

/-- **Nothing is lost**: the output has as many elements as all shapes together. -/
theorem Joins.elementCount_eq (h : Joins axis shapes output) :
    elementCount output = totalSize (shapes.map elementCount) := by
  have hshapes : shapes.map elementCount = shapes.map fun shape =>
      elementCount (output.take axis) *
        (sizeAt shape axis * elementCount (output.drop (axis + 1))) :=
    List.map_congr_left fun shape hshape => (h.same shape hshape).elementCount_eq h.axis_lt
  rw [hshapes, elementCount_around h.axis_lt, h.total, totalSize_eq_sum, totalSize_eq_sum,
    List.sum_map_mul_left, List.sum_map_mul_right]

end Joins

/-! ## What the rule computes -/

theorem requireMatch_eq_ok {α : Type} {first : Sizes} {axis : Nat} {tensor : Tensor α} :
    requireMatch first axis tensor = .ok () ↔ Matches first axis tensor.sizes := by
  unfold requireMatch
  by_cases hlength : tensor.sizes.length ≠ first.length
  · rw [if_pos hlength]
    exact iff_of_false (fun h => by cases h) fun h => hlength h.length
  · have hall := all_zipIdx_iff axis (not_not.mp hlength)
    rw [if_neg hlength]
    constructor
    · intro h
      split at h
      · next hsame => exact ⟨not_not.mp hlength, hall.mp hsame⟩
      · cases h
    · intro h
      rw [if_pos (hall.mpr h.get)]

/-- **Put behind the first shape, the others are compared with it and their sizes are added up.** -/
theorem catSteps_eq_ok {first output : Sizes} {axis : Nat} (haxis : axis < first.length)
    {others : List Sizes} :
    others.foldlM (catStep first axis) first = .ok output ↔ Joins axis (first :: others) output := by
  -- A shape is compared like a tensor of these sizes.
  have halike := catSteps_alike haxis (others.map fun shape => Tensor.full shape ())
    (sizeAt first axis)
  simp only [List.map_map, Function.comp_def, Tensor.full, List.map_id', List.forall_mem_map,
    set_sizeAt haxis] at halike
  obtain ⟨hends, hvalues⟩ := alike_iff.mp halike
  have hchecks : (others.map fun shape => Tensor.full shape ()).forM (requireMatch first axis) =
      .ok () ↔ ∀ shape ∈ others, Matches first axis shape := by
    rw [forM_eq_ok, List.forall_mem_map]
    exact forall₂_congr fun shape _ => requireMatch_eq_ok
  have hjoins : ∀ sum, others.foldlM (catStep first axis) first = .ok sum →
      Joins axis (first :: others) sum := by
    intro sum hsum
    obtain ⟨⟨⟩, hchecked⟩ := hends.mp ⟨sum, hsum⟩
    obtain ⟨hmatch, rfl⟩ := hvalues sum () hsum hchecked
    have hfirst := (matches_set first axis
      (sizeAt first axis + totalSize (others.map (sizeAt · axis)))).symm
    refine ⟨?_, List.forall_mem_cons.mpr ⟨hfirst, ?_⟩, sizeAt_set haxis _⟩
    · rw [List.length_set]
      exact haxis
    · exact fun shape hshape => hfirst.trans (hmatch shape hshape)
  refine ⟨hjoins output, fun h => ?_⟩
  have hfirst := h.same first List.mem_cons_self
  have hmatch : ∀ shape ∈ others, Matches first axis shape :=
    fun shape hshape => hfirst.symm.trans (h.same shape (List.mem_cons_of_mem _ hshape))
  obtain ⟨sum, hsum⟩ := hends.mpr ⟨(), hchecks.mpr hmatch⟩
  rw [hsum, (hjoins sum hsum).unique h (List.cons_ne_nil first others)]

/-- What the shapes that are not left out give: an empty vector if there are none. -/
inductive Concatenates (dim : Int) : List Sizes → Sizes → Prop
  | none : Concatenates dim [] [0]
  | some {axis : Nat} {shapes : List Sizes} {output : Sizes} :
      shapes ≠ [] → resolveDim dim output.length = .ok axis → Joins axis shapes output →
        Concatenates dim shapes output

/-- The shapes that are compared. -/
abbrev keptShapes (shapes : List Sizes) : List Sizes :=
  shapes.filter fun shape => !isLeftOut shape

/-- **Shapes are concatenated exactly if there are some, none of them is that of a scalar, and those
that are not left out can be put behind each other.** -/
theorem cat_eq_ok {shapes : List Sizes} {dim : Int} {output : Sizes} :
    cat shapes dim = .ok output ↔
      shapes ≠ [] ∧ [] ∉ shapes ∧ Concatenates dim (keptShapes shapes) output := by
  have hscalar : shapes.any List.isEmpty = true ↔ [] ∈ shapes := by
    simp [List.any_eq_true, List.isEmpty_iff]
  unfold cat invalid wrongRank Checked.refuse
  rw [guarded_eq_ok, guarded_eq_ok, List.isEmpty_iff, hscalar]
  refine and_congr_right fun _ => and_congr_right fun hnone => ?_
  unfold keptShapes
  cases hkept : shapes.filter fun shape => !isLeftOut shape with
  | nil =>
    constructor
    · intro h
      rw [← Except.ok.inj h]
      exact .none
    · intro h
      cases h with
      | none => rfl
      | some hsome => exact (hsome rfl).elim
  | cons first others =>
    have hrank : first ≠ [] := by
      have hfirst : first ∈ shapes.filter fun shape => !isLeftOut shape := by
        rw [hkept]
        exact List.mem_cons_self
      intro hnil
      refine hnone ?_
      rw [← hnil]
      exact (List.mem_filter.mp hfirst).1
    dsimp only
    rw [bind_eq_ok]
    constructor
    · rintro ⟨axis, haxis, hsteps⟩
      have hjoins := (catSteps_eq_ok (resolveDim_lt_length haxis hrank)).mp hsteps
      have hlength := (hjoins.same first List.mem_cons_self).length
      exact .some (List.cons_ne_nil first others) (hlength ▸ haxis) hjoins
    · intro h
      cases h with
      | @some axis _ _ hsome haxis hjoins =>
        have hlength := (hjoins.same first List.mem_cons_self).length
        refine ⟨axis, hlength ▸ haxis, (catSteps_eq_ok ?_).mpr hjoins⟩
        rw [hlength]
        exact hjoins.axis_lt

/-! ## Any grouping -/

section Grouping

variable {dim : Int} {shapes others : List Sizes} {shape output : Sizes}

theorem Concatenates.perm (h : Concatenates dim shapes output) (hperm : shapes.Perm others) :
    Concatenates dim others output := by
  cases h with
  | none =>
    rw [List.nil_perm.mp hperm]
    exact .none
  | some hsome haxis hjoins =>
    refine .some (fun hnone => hsome ?_) haxis (hjoins.perm hperm)
    rw [hnone] at hperm
    exact List.perm_nil.mp hperm

theorem Concatenates.ne_nil (h : Concatenates dim shapes output) : output ≠ [] := by
  cases h with
  | none => exact List.cons_ne_nil 0 []
  | some _ _ hjoins => exact List.ne_nil_of_length_pos (Nat.zero_lt_of_lt hjoins.axis_lt)

/-- **Only empty vectors give an empty vector.** -/
theorem Concatenates.isLeftOut_iff (h : Concatenates dim shapes output)
    (hkept : ∀ shape ∈ shapes, isLeftOut shape = false) :
    isLeftOut output = true ↔ shapes = [] := by
  cases h with
  | none => exact iff_of_true rfl rfl
  | @some axis _ _ hsome _ hjoins =>
    refine iff_of_false (fun hempty => ?_) hsome
    obtain rfl : output = [0] := eq_of_beq hempty
    obtain rfl : axis = 0 := Nat.lt_one_iff.mp hjoins.axis_lt
    obtain ⟨shape, hshape⟩ := List.exists_mem_of_ne_nil shapes hsome
    -- The sum of all sizes along the only axis is zero, and so is each of them.
    have hle : sizeAt shape 0 ≤ sizeAt [0] 0 := by
      rw [hjoins.total, totalSize_eq_sum]
      exact List.le_sum_of_mem (List.mem_map_of_mem hshape)
    have hzero : shape = [0] := (hjoins.same shape hshape).eq Nat.one_pos (Nat.le_zero.mp hle)
    have hout := hkept shape hshape
    rw [hzero] at hout
    cases hout

/-- What shapes give, unless that is left out again, stands in their place. -/
theorem Concatenates.replace (h : Concatenates dim shapes shape)
    (hkept : ∀ shape ∈ shapes, isLeftOut shape = false) :
    Concatenates dim (keptShapes [shape] ++ others) output ↔
      Concatenates dim (shapes ++ others) output := by
  have hout := h.isLeftOut_iff hkept
  cases h with
  | none => exact Iff.rfl
  | @some axis _ _ hsome haxis hjoins =>
    have hin : keptShapes [shape] = [shape] := by
      unfold keptShapes
      rw [List.filter_singleton, Bool.eq_false_iff.mpr (mt hout.mp hsome)]
      rfl
    rw [hin]
    -- Whatever is added, the rank is that of what is replaced, and so the axis is the same.
    have haxis_eq : ∀ {all : List Sizes} {axis' : Nat}, shapes ⊆ all ∨ shape ∈ all →
        resolveDim dim output.length = .ok axis' → Joins axis' all output → axis' = axis := by
      intro all axis' hin haxis' hall
      have hlength : shape.length = output.length := by
        rcases hin with hsub | hmem
        · obtain ⟨other, hother⟩ := List.exists_mem_of_ne_nil shapes hsome
          rw [← (hjoins.same other hother).length, (hall.same other (hsub hother)).length]
        · exact (hall.same shape hmem).length
      rw [hlength] at haxis
      exact Except.ok.inj (haxis'.symm.trans haxis)
    constructor
    · intro h
      cases h with
      | some _ haxis' hall =>
        obtain rfl := haxis_eq (.inr List.mem_cons_self) haxis' hall
        exact .some (List.append_ne_nil_of_left_ne_nil hsome _) haxis' ((hjoins.replace hsome).mp hall)
    · intro h
      generalize hall : shapes ++ others = all at h
      cases h with
      | none => exact (hsome (List.append_eq_nil_iff.mp hall).1).elim
      | some _ haxis' hjoins' =>
        subst hall
        obtain rfl := haxis_eq (.inl (List.subset_append_left _ _)) haxis' hjoins'
        exact .some (List.cons_ne_nil _ _) haxis' ((hjoins.replace hsome).mpr hjoins')

/-- Some of the shapes can always be concatenated first. -/
theorem Concatenates.part (h : Concatenates dim shapes output) (hsub : others ⊆ shapes) :
    ∃ shape, Concatenates dim others shape := by
  by_cases hnone : others = []
  · exact ⟨[0], hnone ▸ .none⟩
  · cases h with
    | none => exact (hnone (List.subset_nil.mp hsub)).elim
    | some _ haxis hjoins =>
      refine ⟨_, .some hnone ?_ (hjoins.part hsub)⟩
      rw [List.length_set]
      exact haxis

/-- Whatever is left out has no elements. -/
theorem elementCount_kept (shapes : List Sizes) :
    totalSize ((keptShapes shapes).map elementCount) = totalSize (shapes.map elementCount) := by
  induction shapes with
  | nil => rfl
  | cons shape shapes ih =>
    rw [List.map_cons, totalSize_cons, ← ih]
    cases hout : isLeftOut shape with
    | true =>
      obtain rfl : shape = [0] := eq_of_beq hout
      rw [show keptShapes ([0] :: shapes) = keptShapes shapes from rfl]
      exact (Nat.zero_add _).symm
    | false =>
      have hkept : keptShapes (shape :: shapes) = shape :: keptShapes shapes :=
        List.filter_cons_of_pos (by rw [hout]; rfl)
      rw [hkept, List.map_cons, totalSize_cons]

theorem Concatenates.elementCount_eq (h : Concatenates dim shapes output) :
    elementCount output = totalSize (shapes.map elementCount) := by
  cases h with
  | none => rfl
  | some _ _ hjoins => exact hjoins.elementCount_eq

/-- **What two parts give may be put in the place of both**: of one after the other, as the order of
the shapes is free. -/
theorem Concatenates.regroup {front back : List Sizes} {first second : Sizes}
    (hfirst : Concatenates dim (keptShapes front) first)
    (hsecond : Concatenates dim (keptShapes back) second) :
    Concatenates dim (keptShapes [first, second]) output ↔
      Concatenates dim (keptShapes (front ++ back)) output := by
  have hkept : ∀ shapes : List Sizes, ∀ shape ∈ keptShapes shapes, isLeftOut shape = false := by
    intro shapes shape hshape
    simpa using (List.mem_filter.mp hshape).2
  have hpair : keptShapes [first, second] = keptShapes [first] ++ keptShapes [second] :=
    List.filter_append [first] [second]
  have hsplit : keptShapes (front ++ back) = keptShapes front ++ keptShapes back :=
    List.filter_append front back
  rw [hpair, hsplit, hfirst.replace (hkept front)]
  constructor
  · intro h
    exact ((hsecond.replace (hkept back)).mp (h.perm List.perm_append_comm)).perm
      List.perm_append_comm
  · intro h
    exact ((hsecond.replace (hkept back)).mpr (h.perm List.perm_append_comm)).perm
      List.perm_append_comm

end Grouping

end Rule

end OpShape
