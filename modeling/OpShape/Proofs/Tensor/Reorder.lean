/-
# `OpShape.Proofs.Tensor.Reorder` — one order of dimensions after another.

A permuted tensor holds at an index the element of the old one whose coordinate along each dimension
stands where the order names that dimension.  So orders act on tensors as permutations do: two of
them, one after the other, are their composition, and the inverse of an order undoes it.
-/
import Mathlib.Data.List.Nodup
import OpShape.Proofs.Tensor.Entry
import OpShape.Proofs.Tensor.Permute

namespace OpShape

variable {rank : Nat} {order first second : List Nat}

/-! ## Orders of dimensions -/

/-- One order after another: each entry of the second is looked up in the first. -/
def composedOrder (first second : List Nat) : List Nat :=
  second.map fun place => first[place]?.getD 0

/-- The place of each dimension in an order. -/
def inverseOrder (order : List Nat) : List Nat :=
  (List.range order.length).map order.idxOf

theorem nodup_of_perm_range (h : order.Perm (List.range rank)) : order.Nodup :=
  h.nodup_iff.mpr List.nodup_range

theorem mem_of_perm_range (h : order.Perm (List.range rank)) {dim : Nat} :
    dim ∈ order ↔ dim < rank := by
  rw [h.mem_iff, List.mem_range]

theorem length_of_perm_range (h : order.Perm (List.range rank)) : order.length = rank := by
  rw [h.length_eq, List.length_range]

/-- What stands at a place has that place, if it stands nowhere else. -/
theorem idxOf_of_getElem? (hnodup : order.Nodup) {place dim : Nat} (h : order[place]? = some dim) :
    order.idxOf dim = place := by
  obtain ⟨hplace, rfl⟩ := List.getElem?_eq_some_iff.mp h
  exact hnodup.idxOf_getElem place hplace

theorem getD_getElem?_range (order : List Nat) :
    ((List.range order.length).map fun place => order[place]?.getD 0) = order := by
  apply List.ext_getElem (by simp)
  intro place hplace hplace'
  simp [hplace']

/-- **The composition of orders is an order.** -/
theorem composedOrder_perm (hfirst : first.Perm (List.range rank))
    (hsecond : second.Perm (List.range rank)) :
    (composedOrder first second).Perm (List.range rank) := by
  have hmap := hsecond.map fun place => first[place]?.getD 0
  rw [← length_of_perm_range hfirst, getD_getElem?_range] at hmap
  exact hmap.trans (length_of_perm_range hfirst ▸ hfirst)

/-- A dimension stands in the composition where the second order names its place in the first. -/
theorem idxOf_composedOrder (hfirst : first.Perm (List.range rank))
    (hsecond : second.Perm (List.range rank)) {dim : Nat} (hdim : dim < rank) :
    (composedOrder first second).idxOf dim = second.idxOf (first.idxOf dim) := by
  have hmem : dim ∈ first := (mem_of_perm_range hfirst).mpr hdim
  have hplace : first.idxOf dim ∈ second := by
    rw [mem_of_perm_range hsecond, ← length_of_perm_range hfirst]
    exact List.idxOf_lt_length_of_mem hmem
  apply idxOf_of_getElem? (nodup_of_perm_range (composedOrder_perm hfirst hsecond))
  unfold composedOrder
  rw [List.getElem?_map, List.getElem?_idxOf hplace, Option.map_some, List.getElem?_idxOf hmem]
  rfl

theorem inverseOrder_perm (h : order.Perm (List.range rank)) :
    (inverseOrder order).Perm (List.range rank) := by
  have hlength := length_of_perm_range h
  unfold inverseOrder
  apply perm_range_of_nodup
  · refine List.Nodup.map_on ?_ List.nodup_range
    intro a ha b hb hsame
    have ha' : a ∈ order := (mem_of_perm_range h).mpr (hlength ▸ List.mem_range.mp ha)
    exact (List.idxOf_inj ha').mp hsame
  · intro place hplace
    obtain ⟨dim, hdim, rfl⟩ := List.mem_map.mp hplace
    have hmem : dim ∈ order := (mem_of_perm_range h).mpr (hlength ▸ List.mem_range.mp hdim)
    exact hlength ▸ List.idxOf_lt_length_of_mem hmem
  · rw [List.length_map, List.length_range, hlength]

/-- **The inverse of an order undoes it.** -/
theorem composedOrder_inverseOrder (h : order.Perm (List.range rank)) :
    composedOrder order (inverseOrder order) = List.range rank := by
  unfold composedOrder inverseOrder
  rw [List.map_map, length_of_perm_range h]
  refine (List.map_congr_left ?_).trans (List.map_id _)
  intro dim hdim
  have hmem : dim ∈ order := (mem_of_perm_range h).mpr (List.mem_range.mp hdim)
  rw [Function.comp_apply, List.getElem?_idxOf hmem]
  rfl

/-! ## Indices before and after -/

/-- The index of the old tensor that an index of the permuted one stands for. -/
def oldIndex (order index : List Nat) : List Nat :=
  (List.range order.length).map fun dim => index[order.idxOf dim]?.getD 0

theorem getElem?_oldIndex {index : List Nat} {dim : Nat} (hdim : dim < order.length) :
    (oldIndex order index)[dim]? = some (index[order.idxOf dim]?.getD 0) := by
  unfold oldIndex
  rw [List.getElem?_map, List.getElem?_range hdim]
  rfl

/-- Read in the order, the old index is the new one. -/
theorem map_oldIndex {index : List Nat} (hnodup : order.Nodup) (hlength : index.length = order.length) :
    (order.map fun dim => index[order.idxOf dim]?.getD 0) = index := by
  apply List.ext_getElem (by rw [List.length_map, hlength])
  intro place hplace hplace'
  rw [List.getElem_map, hnodup.idxOf_getElem, List.getElem?_eq_getElem hplace']
  rfl

/-- **The old index lies inside the old sizes.** -/
theorem inside_oldIndex {sizes : Sizes} {index : List Nat}
    (horder : order.Perm (List.range sizes.length))
    (hinside : Inside index (order.map (sizeAt sizes))) : Inside (oldIndex order index) sizes := by
  have hlength : order.length = sizes.length := length_of_perm_range horder
  refine inside_iff.mpr ⟨by simp [oldIndex, hlength], ?_⟩
  intro dim i size hi hsize
  obtain ⟨hdim, -⟩ := List.getElem?_eq_some_iff.mp hsize
  have hmem : dim ∈ order := (mem_of_perm_range horder).mpr hdim
  have hplace : order.idxOf dim < index.length := by
    rw [hinside.length, List.length_map]
    exact List.idxOf_lt_length_of_mem hmem
  have hlt := hinside.getElem_lt (List.getElem?_eq_getElem hplace)
  rw [getElem?_oldIndex (hlength ▸ hdim), List.getElem?_eq_getElem hplace] at hi
  rw [← Option.some.inj hi]
  refine Nat.lt_of_lt_of_eq hlt ?_
  unfold sizeAt
  rw [List.getElem?_map, List.getElem?_idxOf hmem, Option.map_some, hsize]
  rfl

/-- **Coordinates in the new order find the offset of the old index.** -/
theorem permuted_offset_eq {sizes : Sizes} {index : List Nat}
    (horder : order.Perm (List.range sizes.length)) (hlength : index.length = order.length) :
    totalSize ((index.zip (order.map (sizeAt (strides sizes)))).map fun entry => entry.1 * entry.2) =
      ravel (oldIndex order index) sizes := by
  have hnodup := nodup_of_perm_range horder
  have hstrides : strides sizes = (List.range order.length).map (sizeAt (strides sizes)) := by
    rw [length_of_perm_range horder, ← length_strides sizes]
    exact (getD_getElem?_range (strides sizes)).symm
  have hnew : index = order.map fun dim => index[order.idxOf dim]?.getD 0 :=
    (map_oldIndex hnodup hlength).symm
  rw [ravel_eq_sum]
  -- Both sums have one term per dimension, in two orders.
  conv_lhs => rw [hnew]
  conv_rhs => rw [hstrides]
  unfold oldIndex
  rw [List.zip_map', List.zip_map', List.map_map, List.map_map]
  apply totalSize_perm
  rw [length_of_perm_range horder]
  exact horder.map _

/-- **The old index of two orders in a row** is that of their composition. -/
theorem oldIndex_composedOrder (hfirst : first.Perm (List.range rank))
    (hsecond : second.Perm (List.range rank)) (index : List Nat) :
    oldIndex (composedOrder first second) index = oldIndex first (oldIndex second index) := by
  have hlength : (composedOrder first second).length = first.length := by
    rw [length_of_perm_range (composedOrder_perm hfirst hsecond), length_of_perm_range hfirst]
  unfold oldIndex
  rw [hlength]
  apply List.map_congr_left
  intro dim hdim
  have hdim' : dim < rank := length_of_perm_range hfirst ▸ List.mem_range.mp hdim
  have hplace : first.idxOf dim < second.length := by
    rw [length_of_perm_range hsecond, ← length_of_perm_range hfirst]
    exact List.idxOf_lt_length_of_mem ((mem_of_perm_range hfirst).mpr hdim')
  rw [idxOf_composedOrder hfirst hsecond hdim', List.getElem?_map, List.getElem?_range hplace]
  rfl

theorem oldIndex_range {index : List Nat} : oldIndex (List.range index.length) index = index := by
  unfold oldIndex
  rw [List.length_range]
  refine (List.map_congr_left ?_).trans (getD_getElem?_range index)
  intro dim hdim
  rw [idxOf_of_getElem? List.nodup_range (List.getElem?_range (List.mem_range.mp hdim))]

/-! ## Tensors in another order -/

namespace Tensor

variable {ε α : Type} {tensor output : Tensor α}

/-- **What a permuted tensor holds**: at each index the element at the old one. -/
theorem permute_eq_ok (horder : order.Perm (List.range tensor.sizes.length)) :
    (tensor.permute order : Checked ε (Tensor α)) = .ok output ↔
      output.sizes = order.map (sizeAt tensor.sizes) ∧
        ∀ index, Inside index (order.map (sizeAt tensor.sizes)) →
          (tensor.at? (oldIndex order index) : Checked ε α) = output.at? index := by
  have hlt : ∀ dim ∈ order, dim < tensor.sizes.length := fun _ => (mem_of_perm_range horder).mp
  have hlt' : ∀ dim ∈ order, dim < (strides tensor.sizes).length := by
    rw [length_strides]
    exact hlt
  unfold permute
  rw [mapM_get_eq hlt, mapM_get_eq hlt', ok_bind, ok_bind, ofIndices_eq_ok]
  apply and_congr_right
  intro _
  apply forall₂_congr
  intro index hinside
  rw [permuted_offset_eq horder (hinside.length.trans (List.length_map _))]
  rfl

/-- **One order after another is their composition.** -/
theorem permute_of_permute (hfirst : first.Perm (List.range tensor.sizes.length))
    (hsecond : second.Perm (List.range tensor.sizes.length)) {middle : Tensor α}
    (hmiddle : (tensor.permute first : Checked ε (Tensor α)) = .ok middle) :
    (middle.permute second : Checked ε (Tensor α)) = .ok output ↔
      (tensor.permute (composedOrder first second) : Checked ε (Tensor α)) = .ok output := by
  obtain ⟨hsizes, hreads⟩ := (permute_eq_ok hfirst).mp hmiddle
  have hrank : middle.sizes.length = tensor.sizes.length := by
    rw [hsizes, List.length_map, length_of_perm_range hfirst]
  have hsecond' : second.Perm (List.range middle.sizes.length) := hrank ▸ hsecond
  have hsame : second.map (sizeAt middle.sizes) =
      (composedOrder first second).map (sizeAt tensor.sizes) := by
    unfold composedOrder
    rw [hsizes, List.map_map]
    apply List.map_congr_left
    intro place hplace
    have hlt : place < first.length := by
      rw [length_of_perm_range hfirst]
      exact (mem_of_perm_range hsecond).mp hplace
    unfold sizeAt
    rw [Function.comp_apply, List.getElem?_map, List.getElem?_eq_getElem hlt]
    rfl
  rw [permute_eq_ok hsecond', permute_eq_ok (composedOrder_perm hfirst hsecond), hsame]
  apply and_congr_right
  intro _
  apply forall₂_congr
  intro index hinside
  rw [oldIndex_composedOrder hfirst hsecond,
    hreads _ (hsizes ▸ inside_oldIndex hsecond' (hsame ▸ hinside))]

/-- **The dimensions in their own order** are the tensor itself. -/
theorem permute_range (tensor : Tensor α) :
    (tensor.permute (List.range tensor.sizes.length) : Checked ε (Tensor α)) = .ok tensor := by
  have hsizes : (List.range tensor.sizes.length).map (sizeAt tensor.sizes) = tensor.sizes :=
    getD_getElem?_range tensor.sizes
  rw [permute_eq_ok (List.Perm.refl _), hsizes]
  refine ⟨rfl, fun index hinside => ?_⟩
  rw [← hinside.length, oldIndex_range]

/-- **An order that leads back is undone** by the order that it leads back with. -/
theorem permute_back (hfirst : first.Perm (List.range tensor.sizes.length))
    (hsecond : second.Perm (List.range tensor.sizes.length))
    (hback : composedOrder first second = List.range tensor.sizes.length) {middle : Tensor α}
    (hmiddle : (tensor.permute first : Checked ε (Tensor α)) = .ok middle) :
    (middle.permute second : Checked ε (Tensor α)) = .ok tensor := by
  rw [permute_of_permute hfirst hsecond hmiddle, hback]
  exact permute_range tensor

end Tensor

end OpShape
