/-
# `OpShape.Proofs.Operator.Concat` — concatenation follows its rule.

The rule adds up the sizes along a dimension while it compares each shape with the first one.  The
operator compares first, then adds up, and then cuts the tensors into chunks, one per tensor and
row.  All tensors that match have the same rows, so that every chunk is there, and the chunks fill
the sizes that were added up.
-/
import OpShape.Builtin.Layout
import OpShape.Operator.Layout
import OpShape.Proofs.Operator.Agreement
import OpShape.Proofs.Tensor.Permute

namespace OpShape

/-- A product around one of its sizes. -/
theorem elementCount_around {sizes : Sizes} {axis : Nat} (h : axis < sizes.length) :
    elementCount sizes = elementCount (sizes.take axis) *
      (sizeAt sizes axis * elementCount (sizes.drop (axis + 1))) := by
  induction sizes generalizing axis with
  | nil => cases h
  | cons size sizes ih =>
    cases axis with
    | zero =>
      show size * elementCount sizes = 1 * (size * elementCount sizes)
      rw [Nat.one_mul]
    | succ axis =>
      have hsize : sizeAt (size :: sizes) (axis + 1) = sizeAt sizes axis := rfl
      rw [List.take_succ_cons, List.drop_succ_cons, hsize, elementCount_cons, elementCount_cons,
        ih (Nat.lt_of_succ_lt_succ h), Nat.mul_assoc]

theorem totalSize_replicate (count size : Nat) :
    totalSize (List.replicate count size) = count * size := by
  induction count with
  | zero => exact (Nat.zero_mul size).symm
  | succ count ih => rw [List.replicate_succ, totalSize_cons, ih, Nat.succ_mul, Nat.add_comm]

theorem totalSize_map_mul {α : Type} (xs : List α) (f : α → Nat) (factor : Nat) :
    totalSize (xs.map fun x => f x * factor) = totalSize (xs.map f) * factor := by
  induction xs with
  | nil => exact (Nat.zero_mul factor).symm
  | cons x xs ih => rw [List.map_cons, List.map_cons, totalSize_cons, totalSize_cons, ih, Nat.add_mul]

theorem length_flatten_of_forall₂ {α β : Type} {f : α → Nat} {xs : List α} {chunks : List (List β)}
    (h : List.Forall₂ (fun x chunk => chunk.length = f x) xs chunks) :
    chunks.flatten.length = totalSize (xs.map f) := by
  induction h with
  | nil => rfl
  | cons hchunk _ ih =>
    rw [List.flatten_cons, List.length_append, List.map_cons, totalSize_cons, hchunk, ih]

namespace Operator

open Tensor (HasSizes answers_ofData answers_row)

variable {α : Type}

/-! ## Shapes that match -/

/-- A shape is the same as the first one, except for the size along an axis. -/
structure Matches (first : Sizes) (axis : Nat) (shape : Sizes) : Prop where
  length : shape.length = first.length
  get : ∀ dim, dim ≠ axis → shape[dim]? = first[dim]?

theorem all_zipIdx_iff {a b : Sizes} (axis : Nat) (hlength : a.length = b.length) :
    ((a.zip b).zipIdx.all fun entry => entry.2 == axis || entry.1.1 == entry.1.2) = true ↔
      ∀ dim, dim ≠ axis → a[dim]? = b[dim]? := by
  rw [List.all_eq_true]
  constructor
  · intro hall dim hdim
    by_cases hlt : dim < a.length
    · have hlt' : dim < b.length := hlength ▸ hlt
      have hentry : ((a[dim], b[dim]), dim) ∈ (a.zip b).zipIdx := by
        rw [List.mem_zipIdx_iff_getElem?, List.getElem?_zip_eq_some]
        exact ⟨List.getElem?_eq_getElem hlt, List.getElem?_eq_getElem hlt'⟩
      have heq := hall _ hentry
      rw [List.getElem?_eq_getElem hlt, List.getElem?_eq_getElem hlt']
      simpa [hdim] using heq
    · rw [List.getElem?_eq_none (Nat.not_lt.mp hlt),
        List.getElem?_eq_none (hlength ▸ Nat.not_lt.mp hlt)]
  · rintro hsame ⟨⟨x, y⟩, dim⟩ hentry
    rw [List.mem_zipIdx_iff_getElem?, List.getElem?_zip_eq_some] at hentry
    obtain ⟨hx, hy⟩ := hentry
    by_cases hdim : dim = axis
    · simp [hdim]
    · have heq := hsame dim hdim
      dsimp only at hx hy
      rw [hx, hy, Option.some.injEq] at heq
      simp [heq]

theorem matches_self (first : Sizes) (axis : Nat) : Matches first axis first :=
  ⟨rfl, fun _ _ => rfl⟩

namespace Matches

variable {first shape : Sizes} {axis : Nat}

theorem take (h : Matches first axis shape) : shape.take axis = first.take axis := by
  apply List.ext_getElem?
  intro dim
  rw [List.getElem?_take, List.getElem?_take]
  split
  · exact h.get dim (by omega)
  · rfl

theorem drop (h : Matches first axis shape) : shape.drop (axis + 1) = first.drop (axis + 1) := by
  apply List.ext_getElem?
  intro dim
  rw [List.getElem?_drop, List.getElem?_drop]
  exact h.get _ (by omega)

/-- A shape that matches has the rows and the inner elements of the first one. -/
theorem elementCount_eq (h : Matches first axis shape) (haxis : axis < first.length) :
    elementCount shape = elementCount (first.take axis) *
      (sizeAt shape axis * elementCount (first.drop (axis + 1))) := by
  rw [← h.take, ← h.drop]
  exact elementCount_around (h.length ▸ haxis)

end Matches

theorem matches_set (first : Sizes) (axis size : Nat) : Matches first axis (first.set axis size) where
  length := List.length_set
  get dim hdim := by
    rw [List.getElem?_set, if_neg fun e => hdim e.symm]

/-! ## The sizes of a concatenation -/

/-- **One more tensor is compared alike**, and the rule adds its size along the axis. -/
theorem catStep_alike {first : Sizes} {axis : Nat} (haxis : axis < first.length) (total : Nat)
    (tensor : Tensor α) :
    Alike (fun out (_ : Unit) => Matches first axis tensor.sizes ∧
        out = first.set axis (total + sizeAt tensor.sizes axis))
      (Rule.catStep first axis (first.set axis total) tensor.sizes)
      (requireMatch first axis tensor) := by
  unfold Rule.catStep requireMatch
  by_cases hlength : tensor.sizes.length ≠ first.length
  · rw [if_pos hlength, if_pos hlength]
    exact alike_error_error
  · rw [if_neg hlength, if_neg hlength]
    have hlength' : tensor.sizes.length = first.length := not_not.mp hlength
    have hrule := all_zipIdx_iff axis hlength'.symm
    have hoperator := all_zipIdx_iff axis hlength'
    by_cases hsame : ∀ dim, dim ≠ axis → tensor.sizes[dim]? = first[dim]?
    -- The sum so far stands along the axis, and it is compared by neither side.
    · have hall := hrule.mpr fun dim hdim => (hsame dim hdim).symm
      have haxis' : axis < (first.set axis total).length := by
        rw [List.length_set]
        exact haxis
      rw [hall, if_neg (by simp), if_pos (hoperator.mpr hsame), get_eq_sizeAt haxis', ok_bind,
        get_eq_sizeAt (hlength' ▸ haxis), ok_bind, Checked.set_of_lt haxis', sizeAt_set haxis,
        List.set_set]
      exact ⟨⟨hlength', hsame⟩, rfl⟩
    · have hall := mt hrule.mp fun h => hsame fun dim hdim => (h dim hdim).symm
      rw [if_pos (by simpa using hall), if_neg (mt hoperator.mp hsame)]
      exact alike_error_error

/-- **All other tensors are compared alike**, and the rule adds up their sizes along the axis. -/
theorem catSteps_alike {first : Sizes} {axis : Nat} (haxis : axis < first.length)
    (others : List (Tensor α)) (total : Nat) :
    Alike (fun out (_ : Unit) => (∀ tensor ∈ others, Matches first axis tensor.sizes) ∧
        out = first.set axis (total + totalSize (others.map fun tensor => sizeAt tensor.sizes axis)))
      ((others.map Tensor.sizes).foldlM (Rule.catStep first axis) (first.set axis total))
      (others.forM (requireMatch first axis)) := by
  induction others generalizing total with
  | nil =>
    exact ⟨List.forall_mem_nil _, rfl⟩
  | cons tensor others ih =>
    show Alike _ ((tensor.sizes :: others.map Tensor.sizes).foldlM _ _)
      (do requireMatch first axis tensor; others.forM (requireMatch first axis))
    rw [List.foldlM_cons]
    apply (catStep_alike haxis total tensor).bind
    rintro _ _ ⟨hmatch, rfl⟩
    apply (ih (total + sizeAt tensor.sizes axis)).imp
    rintro out _ ⟨hothers, rfl⟩
    refine ⟨List.forall_mem_cons.mpr ⟨hmatch, hothers⟩, ?_⟩
    rw [List.map_cons, totalSize_cons, Nat.add_assoc]

/-! ## The elements of a concatenation -/

/-- A chunk is there and has as many elements as its tensor has in a row. -/
theorem answers_chunk {first : Sizes} {axis row : Nat} {tensor : Tensor α}
    (hmatch : Matches first axis tensor.sizes) (haxis : axis < first.length)
    (hrow : row < elementCount (first.take axis)) :
    Answers
      (fun chunk => chunk.length =
        sizeAt tensor.sizes axis * elementCount (first.drop (axis + 1)))
      (chunk tensor axis (elementCount (first.drop (axis + 1))) row) := by
  unfold chunk
  rw [get_eq_sizeAt (hmatch.length ▸ haxis), ok_bind]
  dsimp only
  have hcount := hmatch.elementCount_eq haxis
  exact (answers_row (tensor.size_data.trans hcount) hrow).bind fun window hwindow => hwindow

/-- **The chunks of all rows fill the sizes of the concatenation.** -/
theorem answers_rows {first : Sizes} {axis : Nat} {tensors : List (Tensor α)}
    (hmatch : ∀ tensor ∈ tensors, Matches first axis tensor.sizes) (haxis : axis < first.length) :
    Answers
      (fun rows => (rows.map List.flatten).flatten.length =
        elementCount (first.set axis (totalSize (tensors.map fun tensor => sizeAt tensor.sizes axis))))
      ((List.range (elementCount (first.take axis))).mapM fun row =>
        tensors.mapM fun tensor =>
          chunk tensor axis (elementCount (first.drop (axis + 1))) row) := by
  generalize hinner : elementCount (first.drop (axis + 1)) = inner
  generalize htotal : totalSize (tensors.map fun tensor => sizeAt tensor.sizes axis) = total
  have hwidth : totalSize (tensors.map fun tensor => sizeAt tensor.sizes axis * inner) =
      total * inner := by
    rw [totalSize_map_mul, htotal]
  -- One row of the answer holds a chunk of each tensor.
  have hrows : Answers
      (List.Forall₂ (fun (_ : Nat) chunks => List.Forall₂
          (fun tensor chunk => chunk.length = sizeAt tensor.sizes axis * inner) tensors chunks)
        (List.range (elementCount (first.take axis))))
      ((List.range (elementCount (first.take axis))).mapM fun row =>
        tensors.mapM fun tensor => chunk tensor axis inner row : OpResult (List (List (List α)))) := by
    refine Answers.mapM fun row hrow => Answers.mapM fun tensor htensor => ?_
    rw [← hinner]
    exact answers_chunk (hmatch tensor htensor) haxis (List.mem_range.mp hrow)
  apply hrows.imp
  intro rows hrows
  have hflat : List.Forall₂ (fun (_ : Nat) row => row.length = total * inner)
      (List.range (elementCount (first.take axis))) (rows.map List.flatten) := by
    rw [List.forall₂_map_right_iff]
    apply hrows.imp
    intro _ chunks hchunks
    rw [length_flatten_of_forall₂ hchunks, hwidth]
  have hset := (matches_set first axis total).elementCount_eq haxis
  rw [length_flatten_of_forall₂ hflat, hset, sizeAt_set haxis, hinner, List.map_const',
    List.length_range, totalSize_replicate]

/-- A tensor matches itself. -/
theorem requireMatch_self (first : Tensor α) (axis : Nat) :
    requireMatch first.sizes axis first = .ok () := by
  unfold requireMatch
  rw [if_neg (not_not.mpr rfl), if_pos ((all_zipIdx_iff axis rfl).mpr fun _ _ => rfl)]

/-- What is left to do once the axis is known and empty vectors are left out. -/
theorem concatKept_alike (first : Tensor α) (others : List (Tensor α)) {axis : Nat}
    (haxis : axis < first.sizes.length) :
    Alike HasSizes
      ((others.map Tensor.sizes).foldlM (Rule.catStep first.sizes axis) first.sizes)
      (do
        (first :: others).forM (requireMatch first.sizes axis)
        let along ← (first :: others).mapM fun tensor => Checked.get tensor.sizes axis
        let sizes ← Checked.set first.sizes axis (totalSize along)
        let outer := elementCount (sizes.take axis)
        let inner := elementCount (sizes.drop (axis + 1))
        let rows ← (List.range outer).mapM fun row =>
          (first :: others).mapM fun tensor => chunk tensor axis inner row
        Tensor.ofData sizes (rows.map List.flatten).flatten.toArray) := by
  have hforM : (first :: others).forM (requireMatch first.sizes axis) =
      others.forM (requireMatch first.sizes axis) := by
    show (do requireMatch first.sizes axis first; others.forM (requireMatch first.sizes axis)) = _
    rw [requireMatch_self, ok_bind]
  have hsteps := catSteps_alike haxis others (sizeAt first.sizes axis)
  rw [set_sizeAt haxis] at hsteps
  rw [hforM]
  apply hsteps.bind_right
  rintro out _ ⟨hothers, rfl⟩
  have hmatch : ∀ tensor ∈ first :: others, Matches first.sizes axis tensor.sizes :=
    List.forall_mem_cons.mpr ⟨matches_self first.sizes axis, hothers⟩
  have halong : ((first :: others).mapM fun tensor => Checked.get tensor.sizes axis :
      OpResult (List Nat)) = .ok ((first :: others).map fun tensor => sizeAt tensor.sizes axis) := by
    rw [mapM_eq_ok, List.forall₂_map_right_iff, List.forall₂_same]
    intro tensor htensor
    exact get_eq_sizeAt ((hmatch tensor htensor).length ▸ haxis)
  -- What is written along the axis changes neither the rows nor what lies inside one.
  have hset := matches_set first.sizes axis
    (totalSize ((first :: others).map fun tensor => sizeAt tensor.sizes axis))
  rw [halong, ok_bind, Checked.set_of_lt haxis, ok_bind, hset.take, hset.drop]
  apply (answers_rows hmatch haxis).bind
  intro rows hrows
  apply answers_ofData
  rw [List.size_toArray]
  exact hrows

/-- **Concatenation follows its rule.** -/
theorem concat_alike (tensors : List (Tensor α)) (dim : Int) :
    Alike HasSizes (Rule.cat (tensors.map Tensor.sizes) dim) (concat tensors dim) := by
  unfold Rule.cat concat
  by_cases hnone : tensors = []
  · subst hnone
    exact alike_error_error
  · have hempty : ¬ tensors.isEmpty = true := mt List.isEmpty_iff.mp hnone
    have hempty' : ¬ (tensors.map Tensor.sizes).isEmpty = true := by
      rw [List.isEmpty_map]
      exact hempty
    have hany : ((tensors.map Tensor.sizes).any List.isEmpty) =
        tensors.any fun tensor => tensor.sizes.isEmpty := by
      rw [List.any_map]
      rfl
    rw [if_neg hempty, if_neg hempty', hany]
    by_cases hscalar : (tensors.any fun tensor => tensor.sizes.isEmpty) = true
    · rw [if_pos hscalar, if_pos hscalar]
      exact alike_error_error
    · rw [if_neg hscalar, if_neg hscalar]
      have hfilter : ((tensors.map Tensor.sizes).filter fun shape => !Rule.isLeftOut shape) =
          (tensors.filter fun tensor => !isEmptyVector tensor).map Tensor.sizes := by
        rw [List.filter_map]
        rfl
      rw [hfilter]
      cases hkept : tensors.filter fun tensor => !isEmptyVector tensor with
      | nil => exact (answers_ofData rfl).alike
      | cons first others =>
        have hfirst : first ∈ tensors := by
          have hmem : first ∈ tensors.filter fun tensor => !isEmptyVector tensor := by
            rw [hkept]
            exact List.mem_cons_self
          exact (List.mem_filter.mp hmem).1
        have hrank : first.sizes ≠ [] := by
          intro hnil
          refine hscalar (List.any_eq_true.mpr ⟨first, hfirst, ?_⟩)
          rw [hnil]
          rfl
        apply (alike_axis dim first.sizes.length).bind
        rintro axis _ ⟨rfl, haxis⟩
        have hpos := List.length_pos_of_ne_nil hrank
        exact concatKept_alike first others (by omega)

theorem catOf_follows (limit : Nat) : Follows limit catOf Builtin.concatenated := by
  intro bound _
  unfold catOf Builtin.concatenated
  apply (alike_tensors "tensors" bound).bind
  rintro _ tensors rfl
  apply (alike_int "dim" bound).bind
  rintro dim _ rfl
  have hsizes : tensors.map RealTensor.sizes =
      (tensors.map RealTensor.toFloats).map Tensor.sizes := by
    rw [List.map_map]
    exact List.map_congr_left fun tensor _ => tensor.sizes_toFloats.symm
  rw [hsizes]
  exact Alike.single (concat_alike _ dim)

end Operator

end OpShape
