/-
# `OpShape.Proofs.Tensor.RowMajor` — all indices of a tensor, in row-major order.

The indices inside sizes are listed with the first coordinate running slowest, without a word about
offsets.  That list has every index once, and the index at a position of it is the one of the offset
with that number; so the elements of a tensor at a choice of its indices are those that stand at
their offsets, in the same order.
-/
import OpShape.Proofs.Tensor.Entry

namespace OpShape

/-- All indices inside sizes, in row-major order. -/
def indices : Sizes → List (List Nat)
  | [] => [[]]
  | size :: rest => (List.range size).flatMap fun i => (indices rest).map (i :: ·)

theorem mem_indices {index : List Nat} {sizes : Sizes} :
    index ∈ indices sizes ↔ Inside index sizes := by
  induction sizes generalizing index with
  | nil => exact List.mem_singleton.trans List.forall₂_nil_right_iff.symm
  | cons size rest ih =>
    refine Iff.trans ?_ List.forall₂_cons_right_iff.symm
    simp only [indices, List.mem_flatMap, List.mem_range, List.mem_map, ih]
    constructor
    · rintro ⟨i, hi, tail, htail, rfl⟩
      exact ⟨i, tail, hi, htail, rfl⟩
    · rintro ⟨i, tail, hi, htail, rfl⟩
      exact ⟨i, hi, tail, htail, rfl⟩

/-- The offsets of rows of one width, row by row. -/
theorem range_mul (rows width : Nat) :
    List.range (rows * width) =
      (List.range rows).flatMap fun row =>
        (List.range width).map fun column => row * width + column := by
  induction rows with
  | zero => rw [Nat.zero_mul, List.range_zero, List.flatMap_nil]
  | succ rows ih =>
    rw [Nat.succ_mul, List.range_add, List.range_succ, List.flatMap_append, ih,
      List.flatMap_singleton]

/-- **The offsets of a tensor, in order, lead to its indices in row-major order.** -/
theorem indices_eq_map (sizes : Sizes) :
    indices sizes = (List.range (elementCount sizes)).map fun offset => unravel offset sizes := by
  induction sizes with
  | nil => rfl
  | cons size rest ih =>
    rw [indices, elementCount_cons, range_mul, List.map_flatMap, ih]
    refine List.flatMap_congr fun i hi => ?_
    rw [List.map_map, List.map_map]
    refine List.map_congr_left fun offset hoffset => ?_
    have hlt : offset < elementCount rest := List.mem_range.mp hoffset
    show i :: unravel offset rest =
      (i * elementCount rest + offset) / elementCount rest % size ::
        unravel (i * elementCount rest + offset) rest
    rw [Nat.add_comm, unravel_add_mul, Nat.add_mul_div_right _ _ (Nat.zero_lt_of_lt hlt),
      Nat.div_eq_of_lt hlt, Nat.zero_add, Nat.mod_eq_of_lt (List.mem_range.mp hi)]

theorem length_indices (sizes : Sizes) : (indices sizes).length = elementCount sizes := by
  rw [indices_eq_map, List.length_map, List.length_range]

/-- Two indices inside sizes have the same offset only if they are the same. -/
theorem ravel_inj {sizes : Sizes} {a b : List Nat} (ha : Inside a sizes) (hb : Inside b sizes) :
    ravel a sizes = ravel b sizes ↔ a = b := by
  refine ⟨fun h => ?_, fun h => h ▸ rfl⟩
  rw [← unravel_ravel ha, h, unravel_ravel hb]

namespace Tensor

variable {ε α : Type}

/-- The indices of a tensor are those of its numbered elements. -/
theorem indices_eq_zipIdx (tensor : Tensor α) :
    indices tensor.sizes =
      tensor.data.toList.zipIdx.map fun entry => unravel entry.2 tensor.sizes := by
  have hoffsets : tensor.data.toList.zipIdx.map Prod.snd = List.range (elementCount tensor.sizes) := by
    rw [List.zipIdx_map_snd, Array.length_toList, tensor.size_data, List.range_eq_range']
  rw [indices_eq_map, ← hoffsets, List.map_map]
  rfl

/-- **The elements at some of the indices**, in row-major order, are those that stand at their
offsets. -/
theorem mapM_at?_filter (tensor : Tensor α) (p : List Nat → Bool) :
    (((indices tensor.sizes).filter p).mapM tensor.at? : Checked ε (List α)) =
      .ok ((tensor.data.toList.zipIdx.filter fun entry =>
        p (unravel entry.2 tensor.sizes)).map Prod.fst) := by
  rw [indices_eq_zipIdx, List.filter_map, mapM_eq_ok, List.forall₂_map_left_iff,
    List.forall₂_map_right_iff]
  refine List.forall₂_same.mpr ?_
  rintro ⟨x, offset⟩ hentry
  obtain ⟨hlt, hx⟩ := List.mem_zipIdx' (List.mem_of_mem_filter hentry)
  rw [Array.length_toList] at hlt
  show tensor.at? (unravel offset tensor.sizes) = .ok x
  rw [at?_unravel hlt, hx, Array.getElem_toList]

end Tensor

end OpShape
