/-
# `OpShape.Proofs.Tensor.Correspondence` — offsets and indices name the same positions.

Each offset below the number of elements has one index inside the sizes, and each such index has one
offset; the one leads back to the other, and greater offsets belong to later indices in
lexicographic order.  Two descriptions from the last dimension on are shown to be the same as those
from the first: a stride is the next stride times the next size, and the coordinates of an offset
are the remainders when it is divided by one size after the other.
-/
import OpShape.Proofs.Tensor.RowMajor

namespace OpShape

/-! ## From the last dimension on -/

/-- The stride of a dimension is the one behind it times the size behind it. -/
theorem strides_cons_cons (size next : Nat) (rest : Sizes) :
    strides (size :: next :: rest) =
      (strides (next :: rest)).headD 1 * next :: strides (next :: rest) := by
  show next * elementCount rest :: strides (next :: rest) =
    elementCount rest * next :: strides (next :: rest)
  rw [Nat.mul_comm]

/-- The stride of the last dimension is one. -/
theorem strides_singleton (size : Nat) : strides [size] = [1] := rfl

/-- The remainders of an offset that is divided by the sizes from the last one on, and the quotient
that is left at the end.  A dimension without places is passed over. -/
def divided (offset : Nat) : Sizes → List Nat × Nat
  | [] => ([], offset)
  | size :: rest =>
    let (index, left) := divided offset rest
    if 0 < size then (left % size :: index, left / size) else (0 :: index, left)

/-- **The coordinates of an offset are its remainders**, where there are elements at all. -/
theorem divided_eq {sizes : Sizes} (h : 0 < elementCount sizes) (offset : Nat) :
    divided offset sizes = (unravel offset sizes, offset / elementCount sizes) := by
  induction sizes with
  | nil => simp [divided, unravel]
  | cons size rest ih =>
    have hsize : 0 < size := Nat.pos_of_mul_pos_right h
    have hrest : 0 < elementCount rest := Nat.pos_of_mul_pos_left h
    rw [divided, ih hrest]
    show (if 0 < size then _ else _) = _
    rw [if_pos hsize, Nat.div_div_eq_div_mul, Nat.mul_comm]
    rfl

/-! ## Order -/

/-- Places in rows of one width are ordered by their rows first. -/
theorem row_add_lt_row_add_iff {row other width column column' : Nat} (h : column < width)
    (h' : column' < width) :
    row * width + column < other * width + column' ↔ row < other ∨ row = other ∧ column < column' := by
  rcases Nat.lt_trichotomy row other with hlt | rfl | hgt
  · have hrows : (row + 1) * width ≤ other * width := Nat.mul_le_mul_right width hlt
    rw [Nat.succ_mul] at hrows
    omega
  · omega
  · have hrows : (other + 1) * width ≤ row * width := Nat.mul_le_mul_right width hgt
    rw [Nat.succ_mul] at hrows
    omega

/-- **Offsets are ordered as indices are**, coordinate by coordinate from the first one on. -/
theorem ravel_lt_ravel_iff {sizes : Sizes} {index later : List Nat} (h : Inside index sizes)
    (h' : Inside later sizes) : ravel index sizes < ravel later sizes ↔ index < later := by
  induction h generalizing later with
  | nil =>
    rw [List.forall₂_nil_right_iff.mp h']
    simp [ravel]
  | @cons i size index sizes _ hindex ih =>
    obtain ⟨j, later, -, hlater, rfl⟩ := List.forall₂_cons_right_iff.mp h'
    show i * elementCount sizes + ravel index sizes < j * elementCount sizes + ravel later sizes ↔ _
    rw [List.cons_lt_cons_iff, ← ih hlater,
      row_add_lt_row_add_iff (ravel_lt hindex) (ravel_lt hlater)]

/-- All indices are listed in lexicographic order. -/
theorem indices_pairwise_lt (sizes : Sizes) : (indices sizes).Pairwise (· < ·) := by
  rw [indices_eq_map, List.pairwise_map]
  refine List.pairwise_lt_range.imp_of_mem ?_
  intro offset later hoffset hlater hlt
  rw [List.mem_range] at hoffset hlater
  rw [← ravel_lt_ravel_iff (inside_unravel_of_lt hoffset) (inside_unravel_of_lt hlater),
    ravel_unravel_of_lt hoffset, ravel_unravel_of_lt hlater]
  exact hlt

/-! ## The correspondence -/

end OpShape
