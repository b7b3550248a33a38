/-
# `OpShape.Proofs.Operator.Stacks` — the product of stacks is the product of their matrices.

The operator repeats both operands to the same batches, and cuts them into matrices at the offsets
where these start.  An element of the product is therefore read from the elements of one row and of
one column, and those are the same if the two matrices are taken out of the operands first, at the
batch indices that are repeated there.  Vectors are matrices of one row or one column.
-/
import Mathlib.Tactic.Ring
import OpShape.Proofs.Operator.Matmul
import OpShape.Proofs.Tensor.Part

namespace OpShape.Operator

open Tensor (exists_partAt ofOffsets_eq_ok_ravel)

variable {α : Type} [Scalar α]

/-! ## Elements of products -/

/-- An element of the product of the matrices of two stacks at some batch indices. -/
def elementAt (a b : Tensor α) (left right : List Nat) (k row column : Nat) : OpResult α := do
  let terms ← (List.range k).mapM fun p => do
    let x ← a.at? (left ++ [row, p])
    let y ← b.at? (right ++ [p, column])
    .ok (x * y)
  .ok (Scalar.sum terms)

/-- An element is the same wherever its row and its column are the same. -/
theorem elementAt_congr {a b a' b' : Tensor α} {left right left' right' : List Nat}
    {k row column row' column' : Nat}
    (ha : ∀ p < k, (a.at? (left ++ [row, p]) : OpResult α) = a'.at? (left' ++ [row', p]))
    (hb : ∀ p < k, (b.at? (right ++ [p, column]) : OpResult α) = b'.at? (right' ++ [p, column'])) :
    elementAt a b left right k row column = elementAt a' b' left' right' k row' column' := by
  unfold elementAt
  rw [mapM_congr fun p hp => ?_]
  rw [ha p (List.mem_range.mp hp), hb p (List.mem_range.mp hp)]

/-- In a stack the rows of a matrix follow each other, behind the matrices in front of it. -/
theorem ravel_matrix {index batch : List Nat} (h : index.length = batch.length)
    (rows columns row column : Nat) :
    ravel (index ++ [row, column]) (batch ++ [rows, columns]) =
      ravel index batch * (rows * columns) + row * columns + column := by
  rw [ravel_append h]
  simp [ravel, Nat.add_assoc]

/-- **The kernel computes an element from the row and the column that have its coordinates.** -/
theorem productEntry_eq {a b : Tensor α} {leftBatch rightBatch : Sizes} {left right : List Nat}
    {m k n : Nat} (ha : a.sizes = leftBatch ++ [m, k]) (hb : b.sizes = rightBatch ++ [k, n])
    (hleft : left.length = leftBatch.length) (hright : right.length = rightBatch.length)
    (row column : Nat) :
    productEntry a.data b.data (ravel left leftBatch * (m * k)) (ravel right rightBatch * (k * n)) k
        n row column = elementAt a b left right k row column := by
  unfold productEntry elementAt Tensor.at?
  simp only [ha, hb, ravel_matrix hleft, ravel_matrix hright]

/-- **The product of two matrices, element by element.** -/
theorem mm_eq_ok {a b product : Tensor α} {m k n : Nat} (ha : a.sizes = [m, k])
    (hb : b.sizes = [k, n]) :
    mm a b = .ok product ↔ product.sizes = [m, n] ∧ ∀ row < m, ∀ column < n,
      elementAt a b [] [] k row column = product.at? [row, column] := by
  have hentry : ∀ row < m, ∀ column < n,
      productEntry a.data b.data 0 0 k n (ravel [row, column] [m, n] / n)
        (ravel [row, column] [m, n] % n) = elementAt a b [] [] k row column := by
    intro row _ column hcolumn
    have hkernel := productEntry_eq (show a.sizes = [] ++ [m, k] from ha)
      (show b.sizes = [] ++ [k, n] from hb) rfl rfl row column
    rw [show ravel [] [] = 0 from rfl, Nat.zero_mul, Nat.zero_mul] at hkernel
    have hoffset : ravel [row, column] [m, n] = column + n * row := by
      simp [ravel, Nat.add_comm, Nat.mul_comm]
    rw [hoffset, Nat.add_mul_div_left _ _ (Nat.zero_lt_of_lt hcolumn), Nat.div_eq_of_lt hcolumn,
      Nat.zero_add, Nat.add_mul_mod_self_left, Nat.mod_eq_of_lt hcolumn, hkernel]
  unfold mm
  rw [ha, hb]
  dsimp only
  rw [if_neg (not_not.mpr rfl), ofOffsets_eq_ok_ravel]
  refine and_congr_right fun _ => ⟨?_, ?_⟩
  · intro h row hrow column hcolumn
    rw [← hentry row hrow column hcolumn]
    exact h _ (inside_plane_iff.mpr ⟨row, hrow, column, hcolumn, rfl⟩)
  · intro h index hindex
    obtain ⟨row, hrow, column, hcolumn, rfl⟩ := inside_plane_iff.mp hindex
    rw [hentry row hrow column hcolumn]
    exact h row hrow column hcolumn

/-! ## Stacks -/

omit [Scalar α] in
/-- A stack that is repeated to more batches has, at each of them, the part of its own batch. -/
theorem exists_repeated {operand : Tensor α} {own batch rest : Sizes}
    (hsizes : operand.sizes = own ++ rest) (hstretches : Stretches own batch) :
    ∃ stack, broadcastTo operand (batch ++ rest) = .ok stack ∧ stack.sizes = batch ++ rest ∧
      ∀ index, Inside index batch → ∀ place, Inside place rest →
        (stack.at? (index ++ place) : OpResult α) =
          operand.at? (sourceIndex own index ++ place) := by
  have hrepeats : Stretches operand.sizes (batch ++ rest) :=
    hsizes ▸ stretches_append_right hstretches rest
  obtain ⟨stack, hstack, -⟩ := answers_iff.mp (answers_broadcastTo hrepeats)
  obtain ⟨hwide, helements⟩ := (broadcastTo_eq_ok hrepeats).mp hstack
  refine ⟨stack, hstack, hwide, fun index hindex place hplace => ?_⟩
  have hlength : own.length ≤ index.length := hindex.length ▸ hstretches.1
  rw [← helements _ (inside_append hindex hplace), hsizes, sourceIndex_append hlength hplace]

section Stacked

variable {a b product : Tensor α} {leftBatch rightBatch batch : Sizes} {m k n : Nat}

/-- **What the operator computes from two stacks**: both are repeated to the common batches, and the
elements of the product are those of the matrices with the same numbers. -/
theorem matmul_eq (ha : a.sizes = leftBatch ++ [m, k]) (hb : b.sizes = rightBatch ++ [k, n])
    (hcommon : commonShape? leftBatch rightBatch = some batch) {left right : Tensor α}
    (hleft : broadcastTo a (batch ++ [m, k]) = .ok left)
    (hright : broadcastTo b (batch ++ [k, n]) = .ok right) :
    matmul a b = Tensor.ofOffsets (batch ++ [m, n]) fun offset =>
      let matrix := offset / (m * n)
      productEntry left.data right.data (matrix * (m * k)) (matrix * (k * n)) k n
        (offset / n % m) (offset % n) := by
  have hleftSelf : a.withSizes (leftBatch ++ [m, k]) = (.ok a : OpResult (Tensor α)) :=
    ha ▸ a.withSizes_self
  have hrightSelf : b.withSizes (rightBatch ++ [k, n]) = (.ok b : OpResult (Tensor α)) :=
    hb ▸ b.withSizes_self
  have hrows : ¬ (leftBatch ++ [m, k]).length = 1 := by simp
  have hcolumns : ¬ (rightBatch ++ [k, n]).length = 1 := by simp
  unfold matmul
  rw [ha, hb, leftMatrix?_append, rightMatrix?_append]
  dsimp only
  rw [if_neg (not_not.mpr rfl), hcommon]
  dsimp only
  rw [hleftSelf, ok_bind, hleft, ok_bind, hrightSelf, ok_bind, hright, ok_bind, if_neg hrows,
    if_neg hcolumns, List.append_assoc]
  -- The sizes that the product is given at the end are those that it has.
  cases hproduct : (Tensor.ofOffsets (batch ++ [m, n]) fun offset =>
      productEntry left.data right.data (offset / (m * n) * (m * k)) (offset / (m * n) * (k * n)) k
        n (offset / n % m) (offset % n) : OpResult (Tensor α)) with
  | error failure => rfl
  | ok product =>
    have hsizes := (Tensor.ofOffsets_eq_ok.mp hproduct).1
    show product.withSizes (batch ++ [m, n]) = .ok product
    rw [← hsizes, product.withSizes_self]

/-- The number of a matrix in its stack, and the row and the column of an element there, are found
again from the offset of the element. -/
theorem coordinates_of_offset (matrix : Nat) {row column : Nat} (hrow : row < m)
    (hcolumn : column < n) :
    (matrix * (m * n) + row * n + column) / (m * n) = matrix ∧
      (matrix * (m * n) + row * n + column) / n % m = row ∧
        (matrix * (m * n) + row * n + column) % n = column := by
  have hoffset : matrix * (m * n) + row * n + column = column + n * (row + m * matrix) := by
    ring
  have hrows : (column + n * (row + m * matrix)) / n = row + m * matrix := by
    rw [Nat.add_mul_div_left _ _ (Nat.zero_lt_of_lt hcolumn), Nat.div_eq_of_lt hcolumn,
      Nat.zero_add]
  rw [hoffset, Nat.mul_comm m n, ← Nat.div_div_eq_div_mul, hrows, Nat.add_mul_mod_self_left,
    Nat.add_mul_mod_self_left, Nat.mod_eq_of_lt hrow, Nat.mod_eq_of_lt hcolumn,
    Nat.add_mul_div_left _ _ (Nat.zero_lt_of_lt hrow), Nat.div_eq_of_lt hrow, Nat.zero_add]
  exact ⟨rfl, rfl, rfl⟩

/-- **The product of two stacks, element by element.** -/
theorem matmul_eq_ok (ha : a.sizes = leftBatch ++ [m, k]) (hb : b.sizes = rightBatch ++ [k, n])
    (hcommon : commonShape? leftBatch rightBatch = some batch) :
    matmul a b = .ok product ↔ product.sizes = batch ++ [m, n] ∧
      ∀ index, Inside index batch → ∀ row < m, ∀ column < n,
        elementAt a b (sourceIndex leftBatch index) (sourceIndex rightBatch index) k row column =
          product.at? (index ++ [row, column]) := by
  obtain ⟨hleftBatch, hrightBatch⟩ := commonShape_stretches hcommon
  obtain ⟨left, hleft, hleftSizes, hleftElements⟩ := exists_repeated ha hleftBatch
  obtain ⟨right, hright, hrightSizes, hrightElements⟩ := exists_repeated hb hrightBatch
  rw [matmul_eq ha hb hcommon hleft hright, ofOffsets_eq_ok_ravel]
  dsimp only
  have hentry : ∀ index, Inside index batch → ∀ row < m, ∀ column < n,
      productEntry left.data right.data
        (ravel (index ++ [row, column]) (batch ++ [m, n]) / (m * n) * (m * k))
        (ravel (index ++ [row, column]) (batch ++ [m, n]) / (m * n) * (k * n)) k n
        (ravel (index ++ [row, column]) (batch ++ [m, n]) / n % m)
        (ravel (index ++ [row, column]) (batch ++ [m, n]) % n) =
      elementAt a b (sourceIndex leftBatch index) (sourceIndex rightBatch index) k row column := by
    intro index hindex row hrow column hcolumn
    obtain ⟨hmatrix, hrow', hcolumn'⟩ :=
      coordinates_of_offset (ravel index batch) hrow hcolumn
    rw [ravel_matrix hindex.length, hmatrix, hrow', hcolumn',
      productEntry_eq hleftSizes hrightSizes hindex.length hindex.length]
    refine elementAt_congr (fun p hp => ?_) (fun p hp => ?_)
    · exact hleftElements index hindex _ (inside_plane_iff.mpr ⟨row, hrow, p, hp, rfl⟩)
    · exact hrightElements index hindex _ (inside_plane_iff.mpr ⟨p, hp, column, hcolumn, rfl⟩)
  refine and_congr_right fun _ => ⟨?_, ?_⟩
  · intro h index hindex row hrow column hcolumn
    rw [← hentry index hindex row hrow column hcolumn]
    exact h _ (inside_append hindex (inside_plane_iff.mpr ⟨row, hrow, column, hcolumn, rfl⟩))
  · intro h index hindex
    obtain ⟨leading, place, rfl, hleading, hplace⟩ := inside_append_iff.mp hindex
    obtain ⟨row, hrow, column, hcolumn, rfl⟩ := inside_plane_iff.mp hplace
    rw [hentry leading hleading row hrow column hcolumn]
    exact h leading hleading row hrow column hcolumn

theorem exists_matmul (ha : a.sizes = leftBatch ++ [m, k]) (hb : b.sizes = rightBatch ++ [k, n])
    (hcommon : commonShape? leftBatch rightBatch = some batch) :
    ∃ product, matmul a b = .ok product := by
  obtain ⟨hleftBatch, hrightBatch⟩ := commonShape_stretches hcommon
  obtain ⟨left, hleft, hleftSizes, -⟩ := exists_repeated ha hleftBatch
  obtain ⟨right, hright, hrightSizes, -⟩ := exists_repeated hb hrightBatch
  have hleftCount : left.data.size = elementCount batch * (m * k) := by
    rw [left.size_data, hleftSizes, elementCount_planes]
  have hrightCount : right.data.size = elementCount batch * (k * n) := by
    rw [right.size_data, hrightSizes, elementCount_planes]
  obtain ⟨product, hproduct, -⟩ := answers_iff.mp (answers_product hleftCount hrightCount)
  exact ⟨product, (matmul_eq ha hb hcommon hleft hright).trans hproduct⟩

/-- The product of the matrices of two stacks at some batch indices. -/
def mmAt (a b : Tensor α) (left right : List Nat) : OpResult (Tensor α) := do
  mm (← a.partAt left) (← b.partAt right)

/-- **The product of two stacks is the product of their matrices, batch by batch.** -/
theorem partAt_matmul (ha : a.sizes = leftBatch ++ [m, k]) (hb : b.sizes = rightBatch ++ [k, n])
    (hcommon : commonShape? leftBatch rightBatch = some batch) (hproduct : matmul a b = .ok product)
    {index : List Nat} (hindex : Inside index batch) :
    ∃ matrix, mmAt a b (sourceIndex leftBatch index) (sourceIndex rightBatch index) = .ok matrix ∧
      product.partAt index = (.ok matrix : OpResult (Tensor α)) := by
  obtain ⟨hsizes, helements⟩ := (matmul_eq_ok ha hb hcommon).mp hproduct
  obtain ⟨hleftBatch, hrightBatch⟩ := commonShape_stretches hcommon
  have hleft := inside_sourceIndex hleftBatch hindex
  have hright := inside_sourceIndex hrightBatch hindex
  obtain ⟨x, hx, hxSizes, hxElements⟩ := exists_partAt (ε := OpError) ha hleft
  obtain ⟨y, hy, hySizes, hyElements⟩ := exists_partAt (ε := OpError) hb hright
  obtain ⟨matrix, hmatrix, hmatrixSizes, hmatrixElements⟩ :=
    exists_partAt (ε := OpError) hsizes hindex
  refine ⟨matrix, ?_, hmatrix⟩
  unfold mmAt
  rw [hx, ok_bind, hy, ok_bind, mm_eq_ok hxSizes hySizes]
  refine ⟨hmatrixSizes, fun row hrow column hcolumn => ?_⟩
  rw [hmatrixElements _ (inside_plane_iff.mpr ⟨row, hrow, column, hcolumn, rfl⟩),
    ← helements index hindex row hrow column hcolumn]
  refine elementAt_congr (fun p hp => ?_) (fun p hp => ?_)
  · exact hxElements _ (inside_plane_iff.mpr ⟨row, hrow, p, hp, rfl⟩)
  · exact hyElements _ (inside_plane_iff.mpr ⟨p, hp, column, hcolumn, rfl⟩)

end Stacked

/-! ## Vectors and single matrices -/

/-- The product has a dimension of columns unless the operand on the right is a vector. -/
theorem length_columns (n : Nat) {rank : Nat} (hrank : rank ≠ 0) :
    (if rank = 1 then [] else [n]).length = min rank 2 - 1 := by
  split
  case isTrue hvector => simp [hvector]
  case isFalse => rw [List.length_singleton]; omega

/-- Where the one row of a product stands among its sizes. -/
theorem eraseIdx_row (batch : Sizes) {columns : Sizes} {rank : Nat}
    (h : columns.length = min rank 2 - 1) (hrank : rank ≠ 0) :
    (batch ++ 1 :: columns).eraseIdx ((batch ++ 1 :: columns).length - min rank 2) =
      batch ++ columns := by
  have hplace : (batch ++ 1 :: columns).length - min rank 2 = batch.length := by
    rw [List.length_append, List.length_cons]
    omega
  rw [hplace, List.eraseIdx_append_of_length_le (Nat.le_refl _), Nat.sub_self, List.eraseIdx_zero,
    List.tail_cons]

/-- **A vector on the left is a matrix of one row**, and the product loses the dimension of that row:
the last but one, or the last one if the other operand is a vector too. -/
theorem matmul_row (a b : Tensor α) (ha : a.sizes.length = 1) :
    matmul a b = (do
      let row ← a.withSizes (1 :: a.sizes)
      let product ← matmul row b
      product.withSizes
        (product.sizes.eraseIdx (product.sizes.length - min b.sizes.length 2))) := by
  obtain ⟨k, hk⟩ := List.length_eq_one_iff.mp ha
  have hcount : a.data.size = elementCount [1, k] := by
    rw [a.size_data, hk]
    simp
  have hrow : a.withSizes (1 :: a.sizes) =
      (.ok { sizes := [1, k], data := a.data, size_data := hcount } : OpResult (Tensor α)) :=
    Tensor.ofData_eq_ok.mpr ⟨by rw [hk], rfl⟩
  have hvector : leftMatrix? [k] = some ([], 1, k) := rfl
  have hmatrix : leftMatrix? [1, k] = some ([], 1, k) := rfl
  rw [hrow, ok_bind]
  unfold matmul
  dsimp only
  rw [hk, hvector, hmatrix]
  rcases rightOperand_cases b.sizes with ⟨rightBatch, k', columns, n, hright⟩ | ⟨-, hnone⟩
  case inr =>
    rw [hnone]
    rfl
  have hrank : b.sizes.length ≠ 0 := by
    intro hzero
    have hoperator := hright.operator
    rw [List.eq_nil_of_length_eq_zero hzero] at hoperator
    cases hoperator
  rw [hright.operator]
  dsimp only
  by_cases hinner : k ≠ k'
  · rw [if_pos hinner, if_pos hinner]
    rfl
  rw [if_neg hinner, if_neg hinner]
  cases commonShape? [] rightBatch with
  | none => rfl
  | some batch =>
    simp only [bind_assoc]
    refine bind_congr fun _ => bind_congr fun _ => bind_congr fun _ => bind_congr fun _ =>
      bind_congr fun product => ?_
    have hremoved := eraseIdx_row batch (length_columns n hrank) hrank
    generalize (if b.sizes.length = 1 then [] else [n]) = last at hremoved ⊢
    have hsizes : batch ++ (if [k].length = 1 then [] else [1]) ++ last = batch ++ last := by
      simp
    have hadded : batch ++ (if [1, k].length = 1 then [] else [1]) ++ last = batch ++ 1 :: last := by
      simp
    rw [hsizes, hadded]
    exact product.withSizes_removed batch last
      (fun sizes => sizes.eraseIdx (sizes.length - min b.sizes.length 2)) hremoved

/-- **A vector on the right is a matrix of one column**, and the product loses the dimension of that
column, its last one. -/
theorem matmul_column (a b : Tensor α) (hb : b.sizes.length = 1) :
    matmul a b = (do
      let column ← b.withSizes (b.sizes ++ [1])
      let product ← matmul a column
      product.withSizes product.sizes.dropLast) := by
  obtain ⟨k, hk⟩ := List.length_eq_one_iff.mp hb
  have hcount : b.data.size = elementCount [k, 1] := by
    rw [b.size_data, hk]
    simp
  have hcolumn : b.withSizes (b.sizes ++ [1]) =
      (.ok { sizes := [k, 1], data := b.data, size_data := hcount } : OpResult (Tensor α)) :=
    Tensor.ofData_eq_ok.mpr ⟨by rw [hk]; rfl, rfl⟩
  have hvector : rightMatrix? [k] = some ([], k, 1) := rfl
  have hmatrix : rightMatrix? [k, 1] = some ([], k, 1) := rfl
  rw [hcolumn, ok_bind]
  unfold matmul
  dsimp only
  rw [hk, hvector, hmatrix]
  cases leftMatrix? a.sizes with
  | none => rfl
  | some operand =>
    obtain ⟨leftBatch, m, k'⟩ := operand
    dsimp only
    by_cases hinner : k' ≠ k
    · rw [if_pos hinner, if_pos hinner]
      rfl
    rw [if_neg hinner, if_neg hinner]
    cases commonShape? leftBatch [] with
    | none => rfl
    | some batch =>
      simp only [bind_assoc]
      refine bind_congr fun _ => bind_congr fun _ => bind_congr fun _ => bind_congr fun _ =>
        bind_congr fun product => ?_
      generalize batch ++ (if a.sizes.length = 1 then [] else [m]) = front
      exact product.withSizes_removed front [] List.dropLast (by simp)

/-- **The product of two matrices as stacks** is their product, and where one is refused so is the
other. -/
theorem matmul_eq_mm (a b : Tensor α) (ha : a.sizes.length = 2) (hb : b.sizes.length = 2) :
    matmul a b = mm a b := by
  obtain ⟨m, k, ha⟩ := List.length_eq_two.mp ha
  obtain ⟨k', n, hb⟩ := List.length_eq_two.mp hb
  by_cases hinner : k = k'
  · subst hinner
    have hleft : a.sizes = [] ++ [m, k] := ha
    have hright : b.sizes = [] ++ [k, n] := hb
    obtain ⟨product, hproduct⟩ := exists_matmul hleft hright rfl
    obtain ⟨hsizes, helements⟩ := (matmul_eq_ok hleft hright rfl).mp hproduct
    rw [hproduct, eq_comm, mm_eq_ok ha hb]
    exact ⟨hsizes, helements [] .nil⟩
  · unfold matmul mm
    rw [ha, hb]
    exact (if_pos hinner).trans (if_pos hinner).symm

/-- Two stacks of as many matrices are accepted where they are so in general. -/
theorem bmm_eq_ok {a b product : Tensor α} :
    bmm a b = .ok product ↔ (∃ count m k n, a.sizes = [count, m, k] ∧ b.sizes = [count, k, n]) ∧
      matmul a b = .ok product := by
  constructor
  · intro h
    unfold bmm incompatible Checked.refuse at h
    split at h
    · next count m k count' k' n ha hb =>
      obtain ⟨hcount, hproduct⟩ := guarded_eq_ok.mp h
      have hinner := hproduct
      unfold matmul incompatible Checked.refuse at hinner
      rw [ha, hb, show leftMatrix? [count, m, k] = some ([count], m, k) from rfl,
        show rightMatrix? [count', k', n] = some ([count'], k', n) from rfl] at hinner
      obtain ⟨hk, -⟩ := guarded_eq_ok.mp hinner
      obtain rfl := not_not.mp hcount
      obtain rfl := not_not.mp hk
      exact ⟨⟨count, m, k, n, ha, hb⟩, hproduct⟩
    · cases h
  · rintro ⟨⟨count, m, k, n, ha, hb⟩, hproduct⟩
    unfold bmm
    rw [ha, hb]
    exact (if_neg (not_not.mpr rfl)).trans hproduct

/-- Sums and products of whole numbers. -/
instance : Scalar Int where
  zero := 0
  emptySum := 0

end OpShape.Operator
