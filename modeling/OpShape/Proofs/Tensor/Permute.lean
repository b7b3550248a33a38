/-
# `OpShape.Proofs.Tensor.Permute` — dimensions in another order.

A permuted tensor reads its source at the sum of its coordinates, each times the stride that its
dimension has in the source.  The greatest such sum is that of the last element of the source,
whatever the order of the dimensions is, and so no sum lies past the end.
-/
import Mathlib.Data.List.Perm.Subperm
import OpShape.Tensor.Permute
import OpShape.Proofs.Tensor.Offset

namespace OpShape

/-- Distinct numbers below their number are all of them. -/
theorem perm_range_of_nodup {order : List Nat} {rank : Nat} (hnodup : order.Nodup)
    (hlt : ∀ dim ∈ order, dim < rank) (hlength : order.length = rank) :
    order.Perm (List.range rank) := by
  have hsubset : order ⊆ List.range rank := fun dim hdim => List.mem_range.mpr (hlt dim hdim)
  refine (hnodup.subperm hsubset).perm_of_length_le (Nat.le_of_eq ?_)
  rw [List.length_range, hlength]

/-- A sum does not depend on the order of its terms. -/
theorem totalSize_perm {sizes sizes' : Sizes} (h : sizes.Perm sizes') :
    totalSize sizes = totalSize sizes' := by
  induction h with
  | nil => rfl
  | cons size _ ih => rw [totalSize_cons, totalSize_cons, ih]
  | swap a b rest => exact Nat.add_left_comm b a (totalSize rest)
  | trans _ _ ih ih' => exact ih.trans ih'

/-! ## The last offset -/

/-- The offset of the last entry along one dimension. -/
def lastOffset (sizes : Sizes) (dim : Nat) : Nat :=
  (sizeAt sizes dim - 1) * sizeAt (strides sizes) dim

theorem sum_lastOffset_succ {sizes : Sizes} (h : 0 < elementCount sizes) :
    totalSize ((List.range sizes.length).map (lastOffset sizes)) + 1 = elementCount sizes := by
  induction sizes with
  | nil => rfl
  | cons size sizes ih =>
    have hsize : 0 < size := Nat.pos_of_mul_pos_right h
    have hrest := ih (Nat.pos_of_mul_pos_left h)
    rw [List.length_cons, List.range_succ_eq_map, List.map_cons, List.map_map, totalSize_cons]
    have htail : lastOffset (size :: sizes) ∘ Nat.succ = lastOffset sizes := by
      funext dim
      rfl
    have hhead : lastOffset (size :: sizes) 0 = (size - 1) * elementCount sizes := rfl
    rw [htail, hhead, elementCount_cons, Nat.add_assoc, hrest, ← Nat.succ_mul,
      Nat.succ_eq_add_one, Nat.sub_add_cancel hsize]

/-- **No coordinates reach past the last element**, in whatever order the dimensions are taken. -/
theorem permuted_offset_lt {sizes : Sizes} {order : List Nat}
    (hperm : order.Perm (List.range sizes.length)) {index : List Nat}
    (hinside : Inside index (order.map (sizeAt sizes))) :
    totalSize ((index.zip (order.map (sizeAt (strides sizes)))).map fun entry => entry.1 * entry.2) <
      elementCount sizes := by
  -- Term by term a coordinate is at most the last one of its dimension; the order is free here.
  have hbound : ∀ (order index : List Nat), Inside index (order.map (sizeAt sizes)) →
      totalSize ((index.zip (order.map (sizeAt (strides sizes)))).map fun entry => entry.1 * entry.2) ≤
        totalSize (order.map (lastOffset sizes)) := by
    intro order
    induction order with
    | nil =>
      intro index hinside
      cases hinside
      exact Nat.le_refl 0
    | cons dim order ih =>
      intro index hinside
      cases hinside with
      | @cons i _ index _ hlt hrest =>
        have hhead : i * sizeAt (strides sizes) dim ≤ lastOffset sizes dim :=
          Nat.mul_le_mul_right _ (Nat.le_sub_one_of_lt hlt)
        exact Nat.add_le_add hhead (ih index hrest)
  -- As many elements as the order asks for are there, and so there is a last one.
  have hcount : 0 < elementCount sizes := by
    rw [Nat.pos_iff_ne_zero, Ne, elementCount_eq_zero]
    intro hzero
    obtain ⟨dim, hdim, hat⟩ := List.getElem_of_mem hzero
    have hmem : dim ∈ order := hperm.mem_iff.mpr (List.mem_range.mpr hdim)
    have hzero' : 0 ∈ order.map (sizeAt sizes) := by
      refine List.mem_map.mpr ⟨dim, hmem, ?_⟩
      unfold sizeAt
      rw [List.getElem?_eq_getElem hdim, hat]
      rfl
    have hnone := elementCount_eq_zero.mpr hzero'
    have hsome := hinside.elementCount_pos
    omega
  -- The last offsets add up to the same in any order.
  have hlast : totalSize (order.map (lastOffset sizes)) =
      totalSize ((List.range sizes.length).map (lastOffset sizes)) := totalSize_perm (hperm.map _)
  have hle := hbound order index hinside
  have hsucc := sum_lastOffset_succ hcount
  omega

/-- **A permutation of dimensions never breaks down**, and permutes the sizes. -/
theorem Tensor.answers_permute {ε α : Type} {tensor : Tensor α} {order : List Nat}
    (hperm : order.Perm (List.range tensor.sizes.length)) :
    Answers (HasSizes (order.map (sizeAt tensor.sizes)))
      (tensor.permute order : Checked ε (Tensor α)) := by
  have hlt : ∀ dim ∈ order, dim < tensor.sizes.length :=
    fun dim hdim => List.mem_range.mp (hperm.mem_iff.mp hdim)
  have hlt' : ∀ dim ∈ order, dim < (strides tensor.sizes).length := by
    rw [length_strides]
    exact hlt
  unfold permute
  rw [mapM_get_eq hlt, mapM_get_eq hlt', ok_bind, ok_bind]
  refine answers_ofIndices fun index hinside => answers_fetch ?_
  exact Nat.lt_of_lt_of_eq (permuted_offset_lt hperm hinside) tensor.size_data.symm

end OpShape
