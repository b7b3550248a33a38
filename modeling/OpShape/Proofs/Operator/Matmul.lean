/-
# `OpShape.Proofs.Operator.Matmul` — products of matrices agree with the operators.

The rules tell vectors, matrices and stacks of matrices apart by rank; the operators take a vector as
a matrix and repeat both stacks to the same batches.  Either way an operand is a stack of matrices,
and every element of the product is read from rows and columns that are there.
-/
import OpShape.Builtin.Matmul
import OpShape.Operator.Matmul
import OpShape.Proofs.Operator.Broadcast

namespace OpShape.Operator

open Tensor (HasSizes AnswersAtAll answers_fetch answers_ofData answers_ofOffsets answers_withSizes)

variable {α : Type}

/-! ## The kernel -/

/-- **An element of a product is computed** from two matrices that lie inside the data. -/
theorem answers_productEntry [Scalar α] {a b : Array α} {first second m k n row column : Nat}
    (hfirst : first + m * k ≤ a.size) (hsecond : second + k * n ≤ b.size) (hrow : row < m)
    (hcolumn : column < n) : AnswersAtAll (productEntry a b first second k n row column) := by
  unfold productEntry
  refine (Answers.mapM (R := fun _ _ => True) fun p hp => ?_).bind fun _ _ => trivial
  have hp : p < k := List.mem_range.mp hp
  have hleft : row * k + p < m * k := row_add_lt hrow hp
  have hright : p * n + column < k * n := row_add_lt hp hcolumn
  apply Answers.bind (answers_fetch (by omega))
  intro x _
  apply Answers.bind (answers_fetch (by omega))
  intro y _
  trivial

/-- **The product of two matrices follows its rule.** -/
theorem mm_alike [Scalar α] (a b : Tensor α) :
    Alike HasSizes (Rule.mm a.sizes b.sizes) (mm a b) := by
  have ha := a.size_data
  have hb := b.size_data
  unfold Rule.mm mm
  generalize a.sizes = left at ha
  generalize b.sizes = right at hb
  match left, right with
  | [m, k], [k', n] =>
    dsimp only
    apply alike_guard
    intro hinner
    obtain rfl : k = k' := not_not.mp hinner
    apply Answers.alike
    apply answers_ofOffsets
    intro offset hoffset
    simp only [elementCount_cons, elementCount_nil, Nat.mul_one] at ha hb hoffset
    have hn : 0 < n := Nat.pos_of_mul_pos_left (Nat.zero_lt_of_lt hoffset)
    apply answers_productEntry (m := m) (by omega) (by omega)
    · exact Nat.div_lt_of_lt_mul (Nat.mul_comm m n ▸ hoffset)
    · exact Nat.mod_lt _ hn
  | [], _ | [_], _ | _ :: _ :: _ :: _, _ => exact alike_error_error
  | [_, _], [] | [_, _], [_] | [_, _], _ :: _ :: _ :: _ => exact alike_error_error

/-! ## Operands -/

/-- A left operand of a product, as the rules see it and as the operators see it: a stack of
matrices, in which a vector has no rows of its own. -/
structure LeftOperand (sizes batch : Sizes) (rows : Option Nat) (m k : Nat) : Prop where
  rule : Rule.leftView sizes = .ok (batch, rows, k)
  operator : leftMatrix? sizes = some (batch, m, k)
  kept : rows.toList = if sizes.length = 1 then [] else [m]
  count : elementCount sizes = elementCount (batch ++ [m, k])
  rowCount : elementCount rows.toList = m

/-- A right operand of a product, in which a vector has no columns of its own. -/
structure RightOperand (sizes batch : Sizes) (k : Nat) (columns : Option Nat) (n : Nat) : Prop where
  rule : Rule.rightView sizes = .ok (batch, k, columns)
  operator : rightMatrix? sizes = some (batch, k, n)
  kept : columns.toList = if sizes.length = 1 then [] else [n]
  count : elementCount sizes = elementCount (batch ++ [k, n])
  columnCount : elementCount columns.toList = n

theorem two_le_length (batch : Sizes) (m k : Nat) : 2 ≤ (batch ++ [m, k]).length := by
  rw [List.length_append]
  exact Nat.le_add_left _ _

theorem leftMatrix?_append (batch : Sizes) (m k : Nat) :
    leftMatrix? (batch ++ [m, k]) = some (batch, m, k) := by
  induction batch with
  | nil => rfl
  | cons size batch ih =>
    rw [List.cons_append, leftMatrix?, ih]
    · rfl
    · intro h
      exact absurd (h ▸ two_le_length batch _ _) (by simp)
    · intro other h
      exact absurd (h ▸ two_le_length batch _ _) (by simp)

theorem rightMatrix?_append (batch : Sizes) (k n : Nat) :
    rightMatrix? (batch ++ [k, n]) = some (batch, k, n) := by
  induction batch with
  | nil => rfl
  | cons size batch ih =>
    rw [List.cons_append, rightMatrix?, ih]
    · rfl
    · intro h
      exact absurd (h ▸ two_le_length batch _ _) (by simp)
    · intro other h
      exact absurd (h ▸ two_le_length batch _ _) (by simp)

/-- Sizes are those of a scalar, of a vector or of a stack of matrices. -/
theorem operand_cases (sizes : Sizes) :
    sizes = [] ∨ (∃ k, sizes = [k]) ∨ ∃ batch m k, sizes = batch ++ [m, k] := by
  obtain rfl | ⟨init, k, rfl⟩ := List.eq_nil_or_concat' sizes
  · exact .inl rfl
  obtain rfl | ⟨batch, m, rfl⟩ := List.eq_nil_or_concat' init
  · exact .inr (.inl ⟨k, rfl⟩)
  · exact .inr (.inr ⟨batch, m, k, List.append_assoc batch [m] [k]⟩)

theorem leftOperand_cases (sizes : Sizes) :
    (∃ batch rows m k, LeftOperand sizes batch rows m k) ∨
      (∃ failure, Rule.leftView sizes = .error failure) ∧ leftMatrix? sizes = none := by
  obtain rfl | ⟨k, rfl⟩ | ⟨batch, m, k, rfl⟩ := operand_cases sizes
  · exact .inr ⟨⟨_, rfl⟩, rfl⟩
  · exact .inl ⟨[], none, 1, k, rfl, rfl, rfl, by simp, rfl⟩
  · refine .inl ⟨batch, some m, m, k, ?_, leftMatrix?_append batch m k, ?_, rfl, ?_⟩
    · unfold Rule.leftView
      simp
    · simp
    · simp

theorem rightOperand_cases (sizes : Sizes) :
    (∃ batch k columns n, RightOperand sizes batch k columns n) ∨
      (∃ failure, Rule.rightView sizes = .error failure) ∧ rightMatrix? sizes = none := by
  obtain rfl | ⟨k, rfl⟩ | ⟨batch, k, n, rfl⟩ := operand_cases sizes
  · exact .inr ⟨⟨_, rfl⟩, rfl⟩
  · exact .inl ⟨[], k, none, 1, rfl, rfl, rfl, by simp, rfl⟩
  · refine .inl ⟨batch, k, some n, n, ?_, rightMatrix?_append batch k n, ?_, rfl, ?_⟩
    · unfold Rule.rightView
      simp
    · simp
    · simp

/-! ## Stacks -/

/-- The special cases for vectors and matrices are those of stacks without batches. -/
theorem matmul_alike_batched (a b : Sizes) :
    Alike Eq (Rule.matmul a b) (Rule.batchedMatmul a b) := by
  have hrest : ∀ k k' : Nat, ∀ out : Sizes, ∀ details : String,
      Alike Eq (if k ≠ k' then Rule.incompatible details else .ok out)
        (if k ≠ k' then Rule.incompatible "matmul: lhs columns must match rhs rows"
        else .ok out) := by
    intro k k' out details
    apply alike_guard
    intro _
    rfl
  have hself : Alike Eq (Rule.batchedMatmul a b) (Rule.batchedMatmul a b) := by
    cases Rule.batchedMatmul a b with
    | error e => trivial
    | ok out => rfl
  unfold Rule.matmul
  split
  · exact hrest _ _ _ _
  · exact hrest _ _ _ _
  · exact hrest _ _ _ _
  · exact hrest _ _ _ _
  · exact hself

/-- Further dimensions that both have in common leave one shape to stretch over the other. -/
theorem stretches_append_right {source target : Sizes} (h : Stretches source target)
    (last : Sizes) : Stretches (source ++ last) (target ++ last) := by
  rw [stretches_iff_reversed] at h ⊢
  rw [List.reverse_append, List.reverse_append]
  induction last.reverse with
  | nil => exact h
  | cons size last ih => exact ⟨.inl rfl, ih⟩

/-- A stack of matrices is repeated to more batches. -/
theorem answers_stack {operand : Tensor α} {own batch : Sizes} {m k : Nat}
    (hcount : elementCount operand.sizes = elementCount (own ++ [m, k]))
    (hstretches : Stretches own batch) :
    Answers (fun stack => stack.data.size = elementCount batch * (m * k))
      (do
        let matrices ← operand.withSizes (own ++ [m, k])
        broadcastTo matrices (batch ++ [m, k]) : OpResult (Tensor α)) := by
  apply (answers_withSizes hcount).bind
  intro matrices (hmatrices : matrices.sizes = own ++ [m, k])
  have hrepeats : Stretches matrices.sizes (batch ++ [m, k]) :=
    hmatrices ▸ stretches_append_right hstretches [m, k]
  apply (answers_broadcastTo hrepeats).imp
  intro stack (hstack : stack.sizes = batch ++ [m, k])
  rw [stack.size_data, hstack, elementCount_planes]

/-- **The products of two stacks with the same batches** are as many matrices. -/
theorem answers_product [Scalar α] {left right : Array α} {batch : Sizes} {m k n : Nat}
    (hleft : left.size = elementCount batch * (m * k))
    (hright : right.size = elementCount batch * (k * n)) :
    Answers (HasSizes (batch ++ [m, n]))
      (Tensor.ofOffsets (batch ++ [m, n]) fun offset =>
        let matrix := offset / (m * n)
        productEntry left right (matrix * (m * k)) (matrix * (k * n)) k n (offset / n % m)
          (offset % n) : OpResult (Tensor α)) := by
  apply answers_ofOffsets
  intro offset hoffset
  rw [elementCount_planes] at hoffset
  have hmatrix : 0 < m * n := Nat.pos_of_mul_pos_left (Nat.zero_lt_of_lt hoffset)
  have hbatch : offset / (m * n) < elementCount batch :=
    Nat.div_lt_of_lt_mul (Nat.mul_comm _ _ ▸ hoffset)
  -- The matrices before this one and this one itself lie in the data.
  have hfirst : (offset / (m * n) + 1) * (m * k) ≤ elementCount batch * (m * k) :=
    Nat.mul_le_mul_right _ hbatch
  have hsecond : (offset / (m * n) + 1) * (k * n) ≤ elementCount batch * (k * n) :=
    Nat.mul_le_mul_right _ hbatch
  rw [Nat.succ_mul, ← hleft] at hfirst
  rw [Nat.succ_mul, ← hright] at hsecond
  apply answers_productEntry hfirst hsecond
  · exact Nat.mod_lt _ (Nat.pos_of_mul_pos_right hmatrix)
  · exact Nat.mod_lt _ (Nat.pos_of_mul_pos_left hmatrix)

/-- **The product of two stacks of matrices follows its rule.** -/
theorem batchedMatmul_alike [Scalar α] (a b : Tensor α) :
    Alike HasSizes (Rule.batchedMatmul a.sizes b.sizes) (matmul a b) := by
  unfold Rule.batchedMatmul matmul
  rcases leftOperand_cases a.sizes with ⟨leftBatch, rows, m, k, hleft⟩ | ⟨⟨failure, hrule⟩, hnone⟩
  case inr =>
    rw [hrule, hnone]
    exact alike_error_error
  rcases rightOperand_cases b.sizes with
    ⟨rightBatch, k', columns, n, hright⟩ | ⟨⟨failure, hrule⟩, hnone⟩
  case inr =>
    rw [hleft.rule, hrule, hleft.operator, hnone]
    exact alike_error_error
  rw [hleft.rule, hright.rule, hleft.operator, hright.operator]
  simp only [ok_bind]
  apply alike_guard
  intro hinner
  obtain rfl : k = k' := not_not.mp hinner
  cases hcommon : commonShape? leftBatch rightBatch with
  | none =>
    cases hbroadcast : Rule.broadcast leftBatch rightBatch with
    | ok batch =>
      rw [broadcast_eq_ok.mp hbroadcast] at hcommon
      cases hcommon
    | error failure => cases failure <;> exact alike_error_error
  | some batch =>
    obtain ⟨hleftBatch, hrightBatch⟩ := commonShape_stretches hcommon
    rw [broadcast_eq_ok.mpr hcommon]
    dsimp only
    apply Answers.alike
    rw [← bind_assoc]
    apply (answers_stack hleft.count hleftBatch).bind
    intro left hleftSize
    rw [← bind_assoc]
    apply (answers_stack hright.count hrightBatch).bind
    intro right hrightSize
    apply (answers_product hleftSize hrightSize).bind
    intro product hproduct
    rw [← hleft.kept, ← hright.kept]
    apply answers_withSizes
    rw [hproduct, elementCount_planes, List.append_assoc, elementCount_append, elementCount_append,
      hleft.rowCount, hright.columnCount]

/-- **The product of vectors, matrices and stacks of matrices follows its rule.** -/
theorem matmul_alike [Scalar α] (a b : Tensor α) :
    Alike HasSizes (Rule.matmul a.sizes b.sizes) (matmul a b) := by
  apply ((matmul_alike_batched a.sizes b.sizes).trans (batchedMatmul_alike a b)).imp
  rintro _ product ⟨_, rfl, hproduct⟩
  exact hproduct

/-- The rule for two stacks of as many matrices is the one for stacks in general. -/
theorem bmm_alike_matmul {batch m k k' n : Nat} :
    Alike Eq (Rule.bmm [batch, m, k] [batch, k', n]) (Rule.matmul [batch, m, k] [batch, k', n]) := by
  have hcommon : Rule.broadcast [batch] [batch] = .ok [batch] :=
    broadcast_eq_ok.mpr (commonShape_eq_right.mpr (stretches_refl [batch]))
  have hmatmul : Rule.matmul [batch, m, k] [batch, k', n] =
      if k ≠ k' then Rule.incompatible "matmul: lhs columns must match rhs rows"
      else .ok [batch, m, n] := by
    have hleft : Rule.leftView [batch, m, k] = .ok ([batch], some m, k) := rfl
    have hright : Rule.rightView [batch, k', n] = .ok ([batch], k', some n) := rfl
    show Rule.batchedMatmul [batch, m, k] [batch, k', n] = _
    unfold Rule.batchedMatmul
    rw [hleft, ok_bind, hright]
    dsimp only
    rw [ok_bind]
    dsimp only
    rw [hcommon]
    rfl
  unfold Rule.bmm
  dsimp only
  rw [if_neg (not_not.mpr rfl), hmatmul]
  apply alike_guard
  intro _
  rfl

/-- **The product of two stacks of as many matrices follows its rule.** -/
theorem bmm_alike [Scalar α] (a b : Tensor α) :
    Alike HasSizes (Rule.bmm a.sizes b.sizes) (bmm a b) := by
  have hproduct := matmul_alike a b
  unfold bmm
  generalize a.sizes = left at hproduct
  generalize b.sizes = right at hproduct
  match left, right with
  | [batch, m, k], [batch', k', n] =>
    dsimp only
    by_cases hbatch : batch ≠ batch'
    · rw [if_pos hbatch]
      unfold Rule.bmm
      dsimp only
      rw [if_pos hbatch]
      exact alike_error_error
    · obtain rfl : batch = batch' := not_not.mp hbatch
      rw [if_neg hbatch]
      refine (bmm_alike_matmul.trans hproduct).imp ?_
      rintro _ product ⟨_, rfl, hsizes⟩
      exact hsizes
  | [], _ | [_], _ | [_, _], _ | _ :: _ :: _ :: _ :: _, _ => exact alike_error_error
  | [_, _, _], [] | [_, _, _], [_] | [_, _, _], [_, _] | [_, _, _], _ :: _ :: _ :: _ :: _ =>
    exact alike_error_error

/-! ## What is added to a product -/

/-- Tensors of the same sizes are combined element by element. -/
theorem answers_zip2 {β γ : Type} {sizes : Sizes} {a : Tensor α} {b : Tensor β} (f : α → β → γ)
    (ha : HasSizes sizes a) (hb : HasSizes sizes b) : Answers (HasSizes sizes) (zip2 a b f) := by
  have hcommon : Rule.broadcast a.sizes b.sizes = .ok sizes := by
    rw [show a.sizes = sizes from ha, show b.sizes = sizes from hb, broadcast_eq_ok]
    exact commonShape_eq_right.mpr (stretches_refl sizes)
  have hzipped := zip2_alike a b f
  rw [hcommon] at hzipped
  obtain ⟨zipped, hzip, hsizes⟩ := hzipped.ok
  rw [hzip]
  exact hsizes

/-- **What is added to a tensor has to stretch over it**, on both sides. -/
theorem added_alike {β γ : Type} {sizes : Sizes} {input : Tensor α} (extra : Tensor β)
    {combine : Tensor β → OpResult (Tensor γ)} (hinput : HasSizes sizes input)
    (hcombine : ∀ wide, HasSizes sizes wide → Answers (HasSizes sizes) (combine wide))
    (details : String) :
    Alike HasSizes
      (if Rule.stretchesOver extra.sizes sizes then .ok sizes else Rule.incompatible details)
      (do
        let wide ← broadcastTo extra input.sizes
        combine wide) := by
  rw [show input.sizes = sizes from hinput]
  by_cases hstretches : Stretches extra.sizes sizes
  · rw [if_pos (stretchesOver_iff.mpr hstretches)]
    apply Answers.alike
    exact (answers_broadcastTo hstretches).bind hcombine
  · obtain ⟨failure, hrefused⟩ := broadcastTo_refuses hstretches
    rw [if_neg (mt stretchesOver_iff.mp hstretches), hrefused]
    exact alike_error_error

/-- **A weight is transposed alike**, if it is a matrix at most. -/
theorem transposed_alike (weight : Tensor α) :
    Alike HasSizes (Rule.transpose2d weight.sizes) (transposed weight) := by
  have hdata := weight.size_data
  unfold transposed
  generalize hsizes : weight.sizes = sizes at hdata
  match sizes with
  | [] | [_] => exact hsizes
  | [rows, columns] =>
    apply Answers.alike
    apply answers_ofOffsets
    intro offset hoffset
    simp only [elementCount_cons, elementCount_nil, Nat.mul_one] at hdata hoffset
    have hrows : 0 < rows := Nat.pos_of_mul_pos_left (Nat.zero_lt_of_lt hoffset)
    apply answers_fetch
    rw [hdata]
    apply row_add_lt (Nat.mod_lt _ hrows)
    exact Nat.div_lt_of_lt_mul (Nat.mul_comm columns rows ▸ hoffset)
  | _ :: _ :: _ :: _ => exact alike_error_error

/-! ## Calls -/

section Calls

variable (bound : TensorArgs)

theorem matmulOf_alike :
    Alike SingleOf (Builtin.productOf Rule.matmul "other" (bound.map RealTensor.sizes))
      (matmulOf bound) := by
  unfold matmulOf Builtin.productOf
  apply (alike_floats "self" bound).bind
  rintro _ a rfl
  apply (alike_floats "other" bound).bind
  rintro _ b rfl
  exact (matmul_alike a b).single

theorem mmOf_alike :
    Alike SingleOf (Builtin.productOf Rule.mm "mat2" (bound.map RealTensor.sizes)) (mmOf bound) := by
  unfold mmOf Builtin.productOf
  apply (alike_floats "self" bound).bind
  rintro _ a rfl
  apply (alike_floats "mat2" bound).bind
  rintro _ b rfl
  exact (mm_alike a b).single

theorem bmmOf_alike :
    Alike SingleOf (Builtin.productOf Rule.bmm "mat2" (bound.map RealTensor.sizes))
      (bmmOf bound) := by
  unfold bmmOf Builtin.productOf
  apply (alike_floats "self" bound).bind
  rintro _ a rfl
  apply (alike_floats "mat2" bound).bind
  rintro _ b rfl
  exact (bmm_alike a b).single

theorem addmmOf_alike {beta alpha : Float} (hbeta : bound.float "beta" = .ok beta)
    (halpha : bound.float "alpha" = .ok alpha) :
    Alike SingleOf (Builtin.addedProduct (bound.map RealTensor.sizes)) (addmmOf bound) := by
  unfold addmmOf Builtin.addedProduct Rule.addmm
  rw [singleArg_eq "beta" hbeta, singleArg_eq "alpha" halpha, ok_bind, ok_bind]
  apply (alike_floats "self" bound).bind
  rintro _ input rfl
  apply (alike_floats "mat1" bound).bind
  rintro _ a rfl
  apply (alike_floats "mat2" bound).bind
  rintro _ b rfl
  apply (mm_alike a b).bind
  rintro sizes product hproduct
  have hadded := added_alike input hproduct
    (fun wide hwide =>
      answers_zip2 (fun x y => beta.toFloat32 * x + alpha.toFloat32 * y) hwide hproduct)
    "addmm: input must broadcast to the product shape"
  simpa only [bind_assoc] using hadded.single

theorem linearOf_alike :
    Alike SingleOf (Builtin.linearLayer (bound.map RealTensor.sizes)) (linearOf bound) := by
  unfold linearOf Builtin.linearLayer Rule.linear
  have hbias := alike_optFloatArg "bias" bound
  -- The rule reads the bias before anything else, the operator after everything else.
  cases hrule : (liftM ((bound.map RealTensor.sizes).optTensor "bias") :
      ShapeResult (Option Sizes)) with
  | error failure =>
    rw [hrule] at hbias
    obtain ⟨failure', hoperator⟩ := hbias.error
    simp only [hoperator, error_bind]
    exact alike_error_bind fun _ => alike_error_bind fun _ => alike_error_bind fun _ =>
      alike_error_bind fun _ => alike_error_error
  | ok shape =>
    rw [hrule] at hbias
    obtain ⟨bias, hoperator, rfl⟩ := hbias.ok
    simp only [hoperator, ok_bind]
    apply (alike_floats "input" bound).bind
    rintro _ input rfl
    apply (alike_floats "weight" bound).bind
    rintro _ weight rfl
    apply (transposed_alike weight).bind
    rintro _ turned rfl
    apply (matmul_alike input turned).bind
    intro sizes output houtput
    cases bias with
    | none => exact ⟨output, rfl, houtput⟩
    | some bias =>
      have hadded := added_alike bias houtput
        (fun wide hwide => answers_zip2 (fun x b : Float32 => x + b) houtput hwide)
        "linear: bias must broadcast to the output shape"
      have halike := hadded.single
      rw [bind_assoc] at halike
      exact halike

end Calls

end OpShape.Operator

namespace OpShape

variable {draws : Draws}

/-! ## Agreement -/

end OpShape
