/-
# `OpShape.Proofs.Operator.Window` — the windows of pooling.

The rules keep the parameters of a window as lists of integers, the operators as a motion down and a
motion across.  Both accept the same lists, and for an input of three or four dimensions both count
the same places or none.  What a window shows of a plane lies inside the plane, so that a tensor
that is built window by window never breaks down.
-/
import OpShape.Operator.Pool
import OpShape.Proofs.Operator.Agreement
import OpShape.Proofs.Rule.Reads

namespace OpShape.Operator

open Tensor (HasSizes AnswersAtAll answers_fetch answers_ofOffsets)

variable {α β : Type}

attribute [local irreducible] signed

/-! ## One dimension -/

/-- The numbers of an axis with which pooling is possible. -/
structure Poolable (axis : Rule.Axis) : Prop where
  kernel_pos : 0 < axis.kernel
  stride_pos : 0 < axis.stride
  dilation_pos : 0 < axis.dilation
  padding_nonneg : 0 ≤ axis.padding
  padding_le : axis.padding ≤ axis.kernel / 2

/-- The numbers of an axis are words. -/
structure AxisFits (axis : Rule.Axis) : Prop where
  kernel_lt : axis.kernel < 2 ^ 63
  stride_lt : axis.stride < 2 ^ 63
  dilation_lt : axis.dilation < 2 ^ 63
  padding_lt : axis.padding < 2 ^ 63

/-- The motion of a window along an axis. -/
def motionOf (axis : Rule.Axis) : WindowMotion where
  kernel := axis.kernel.toNat
  stride := axis.stride.toNat
  padding := axis.padding.toNat
  dilation := axis.dilation.toNat

/-- A rule that finds a size has checked all numbers of the axis. -/
theorem poolable_of_pooledSize {axis : Rule.Axis} {ceilMode : Bool} {size places : Nat}
    (h : Rule.pooledSize ceilMode (size, axis) = .ok places) : Poolable axis := by
  unfold Rule.pooledSize Rule.poolOutputSize at h
  split at h
  · cases h
  next hhalf =>
  split at h
  · cases h
  next hkernel =>
  split at h
  · cases h
  next hstride =>
  split at h
  · cases h
  next hdilation =>
  split at h
  · cases h
  next hpadding =>
  have hkernel_pos : 0 < axis.kernel := Int.not_le.mp hkernel
  rw [Int.tdiv_eq_ediv_of_nonneg (Int.le_of_lt hkernel_pos)] at hhalf
  exact {
    kernel_pos := hkernel_pos
    stride_pos := Int.not_le.mp hstride
    dilation_pos := Int.not_le.mp hdilation
    padding_nonneg := Int.not_lt.mp hpadding
    padding_le := Int.not_lt.mp hhalf }

/-- A word that is not negative survives the way through natural numbers and back. -/
theorem signed_toNat {value : Int} (h : 0 ≤ value) (hlt : value < 2 ^ 63) :
    signed value.toNat = value := by
  rw [signed_of_lt (by omega)]
  omega

/-- **A window takes the same number of places** on both sides, or none on either. -/
theorem count_alike {axis : Rule.Axis} (h : Poolable axis) (hfits : AxisFits axis) (ceilMode : Bool)
    (size : Nat) :
    Alike Eq (Rule.pooledSize ceilMode (size, axis)) ((motionOf axis).count ceilMode size) := by
  obtain ⟨hkernel, hstride, hdilation, hpadding, hhalf⟩ := h
  have hhalf' : ¬ axis.kernel.tdiv 2 < axis.padding := by
    rw [Int.tdiv_eq_ediv_of_nonneg (Int.le_of_lt hkernel)]
    exact Int.not_lt.mpr hhalf
  unfold Rule.pooledSize Rule.poolOutputSize WindowMotion.count motionOf
  dsimp only
  rw [if_neg hhalf', if_neg (Int.not_le.mpr hkernel), if_neg (Int.not_le.mpr hstride),
    if_neg (Int.not_le.mpr hdilation), if_neg (Int.not_lt.mpr hpadding),
    signed_toNat (Int.le_of_lt hkernel) hfits.kernel_lt,
    signed_toNat (Int.le_of_lt hstride) hfits.stride_lt,
    signed_toNat (Int.le_of_lt hdilation) hfits.dilation_lt,
    signed_toNat hpadding hfits.padding_lt]
  -- Both sides refuse to have no place at all.
  have hplaces : ∀ places : Int, Alike Eq
      (if places ≤ 0 then Rule.invalid "output size is too small" else .ok places.toNat)
      (if places ≤ 0 then invalid "Pooling output size is too small" else .ok places.toNat) := by
    intro places
    split
    · exact alike_error_error
    · rfl
  -- What is left beside the kernel is one number on both sides, of which nothing else is known.
  generalize signed size + 2 * axis.padding - axis.dilation * (axis.kernel - 1) - 1 = room
  rw [Checked.ediv_of_ne_zero (by omega), Checked.ediv_of_ne_zero (by omega), ok_bind, ok_bind]
  cases ceilMode with
  | false =>
    simp only [Bool.false_eq_true, false_and, if_false, Bool.false_and]
    exact hplaces _
  | true =>
    simp only [true_and, if_true, Bool.true_and, decide_eq_true_eq, ← Int.add_sub_assoc]
    exact hplaces _

/-! ## What a window shows -/

/-- The positions that a window shows lie inside the dimension. -/
theorem lt_of_mem_positions {motion : WindowMotion} {window size position : Nat}
    (h : position ∈ motion.positions window size) : position < size := by
  have hle := signed_le size
  unfold WindowMotion.positions at h
  obtain ⟨k, -, hk⟩ := List.mem_filterMap.mp h
  dsimp only at hk
  split at hk
  · cases hk
  · next hinside =>
    obtain rfl := Option.some.inj hk
    omega

/-- The positions that are averaged lie inside the dimension. -/
theorem lt_of_mem_extent {motion : WindowMotion} {window size position : Nat}
    (h : position ∈ (motion.extent window size).positions) : position < size := by
  have hle := signed_le size
  unfold Extent.positions at h
  obtain ⟨i, hi, rfl⟩ := List.mem_map.mp h
  rw [List.mem_range] at hi
  unfold WindowMotion.extent at hi ⊢
  dsimp only at hi ⊢
  omega

/-- **The range of an adaptive position is there**, and lies inside the dimension. -/
theorem answers_adaptiveRange {i size out : Nat} (hi : i < out) :
    Answers (fun range => ∀ position ∈ range, position < size)
      (adaptiveRange i size out) := by
  have hout : 0 < out := Nat.zero_lt_of_lt hi
  -- Even the last range ends with the dimension: what is rounded up falls short of the next place.
  have hstop : ((i + 1) * size + (out - 1)) / out < size + 1 := by
    have hle : (i + 1) * size ≤ out * size := Nat.mul_le_mul_right size hi
    rw [Nat.div_lt_iff_lt_mul hout, Nat.succ_mul size, Nat.mul_comm size]
    omega
  unfold adaptiveRange
  rw [Checked.div_of_ne_zero (Nat.ne_of_gt hout), Checked.div_of_ne_zero (Nat.ne_of_gt hout),
    ok_bind, ok_bind]
  intro position hposition
  obtain ⟨k, hk, rfl⟩ := List.mem_map.mp hposition
  rw [List.mem_range] at hk
  omega

/-! ## Planes -/

/-- An element of a plane is there. -/
theorem answers_planes_at? {planes : Planes} {data : Array α} {plane row column : Nat}
    (hdata : data.size = elementCount (planes.stack ++ [planes.height, planes.width]))
    (hplane : plane < elementCount planes.stack) (hrow : row < planes.height)
    (hcolumn : column < planes.width) : AnswersAtAll (planes.at? data plane row column) := by
  unfold Planes.at?
  apply answers_fetch
  rw [hdata, elementCount_planes, Nat.add_assoc]
  exact row_add_lt hplane (row_add_lt hrow hcolumn)

/-- The plane, the row and the column of an element are there. -/
theorem plane_row_column_lt {stack : Sizes} {rows columns offset : Nat}
    (h : offset < elementCount (stack ++ [rows, columns])) :
    offset / (rows * columns) < elementCount stack ∧ offset / columns % rows < rows ∧
      offset % columns < columns := by
  rw [elementCount_planes] at h
  -- There is an element, so that no plane is without rows or columns.
  have hplane : 0 < rows * columns := Nat.pos_of_mul_pos_left (Nat.zero_lt_of_lt h)
  exact ⟨Nat.div_lt_of_lt_mul (Nat.mul_comm _ _ ▸ h),
    Nat.mod_lt _ (Nat.pos_of_mul_pos_right hplane), Nat.mod_lt _ (Nat.pos_of_mul_pos_left hplane)⟩

/-- **A tensor that is built plane by plane** has as many rows and columns per plane as were asked
for. -/
theorem answers_build {planes : Planes} {rows columns : Nat}
    {entry : Nat → Nat → Nat → OpResult α}
    (h : ∀ plane < elementCount planes.stack, ∀ row < rows, ∀ column < columns,
      AnswersAtAll (entry plane row column)) :
    Answers (HasSizes (planes.stack ++ [rows, columns])) (planes.build rows columns entry) := by
  unfold Planes.build
  apply answers_ofOffsets
  intro offset hoffset
  obtain ⟨hplane, hrow, hcolumn⟩ := plane_row_column_lt hoffset
  exact h _ hplane _ hrow _ hcolumn

/-- What a tensor that is built plane by plane holds. -/
theorem build_eq_ok {planes : Planes} {rows columns : Nat} {entry : Nat → Nat → Nat → OpResult α}
    {tensor : Tensor α} :
    planes.build rows columns entry = .ok tensor ↔
      tensor.sizes = planes.stack ++ [rows, columns] ∧
        ∀ offset (h : offset < tensor.data.size),
          entry (offset / (rows * columns)) (offset / columns % rows) (offset % columns) =
            .ok tensor.data[offset] :=
  Tensor.ofOffsets_eq_ok

/-- A run over the rows and columns that a window shows answers if each step does. -/
theorem answers_rectangle {rows columns : List Nat} {f : Nat → Nat → OpResult β}
    (h : ∀ y ∈ rows, ∀ x ∈ columns, AnswersAtAll (f y x)) :
    AnswersAtAll (rows.mapM fun y => columns.mapM fun x => f y x) := by
  refine (Answers.mapM (R := fun _ _ => True) fun y hy => ?_).imp fun _ _ => trivial
  exact (Answers.mapM (R := fun _ _ => True) fun x hx => h y hy x hx).imp fun _ _ => trivial

/-- What a run over rows and columns has met: each answer comes from a row and a column, and each row
and column has one. -/
theorem of_rectangle {rows columns : List Nat} {f : Nat → Nat → OpResult β}
    {entries : List (List β)}
    (h : (rows.mapM fun y => columns.mapM fun x => f y x) = .ok entries) :
    (∀ entry ∈ entries.flatten, ∃ y ∈ rows, ∃ x ∈ columns, f y x = .ok entry) ∧
      ∀ y ∈ rows, ∀ x ∈ columns, ∃ entry ∈ entries.flatten, f y x = .ok entry := by
  rw [mapM_eq_ok] at h
  constructor
  · intro entry hentry
    obtain ⟨line, hline, hmem⟩ := List.mem_flatten.mp hentry
    obtain ⟨y, hy, hrow⟩ := exists_of_forall₂_right h hline
    obtain ⟨x, hx, hxy⟩ := exists_of_forall₂_right (mapM_eq_ok.mp hrow) hmem
    exact ⟨y, hy, x, hx, hxy⟩
  · intro y hy x hx
    obtain ⟨line, hline, hrow⟩ := exists_of_forall₂_left h hy
    obtain ⟨entry, hentry, hxy⟩ := exists_of_forall₂_left (mapM_eq_ok.mp hrow) hx
    exact ⟨entry, List.mem_flatten.mpr ⟨line, hline, hentry⟩, hxy⟩

theorem answers_planeSum [Scalar α] {planes : Planes} {data : Array α} {plane : Nat}
    {rows columns : List Nat}
    (hdata : data.size = elementCount (planes.stack ++ [planes.height, planes.width]))
    (hplane : plane < elementCount planes.stack) (hrows : ∀ y ∈ rows, y < planes.height)
    (hcolumns : ∀ x ∈ columns, x < planes.width) :
    AnswersAtAll (planeSum planes data plane rows columns) := by
  unfold planeSum
  have hterms : AnswersAtAll (rows.mapM fun y => columns.mapM fun x => planes.at? data plane y x) :=
    answers_rectangle fun y hy x hx =>
      answers_planes_at? hdata hplane (hrows y hy) (hcolumns x hx)
  exact hterms.bind fun _ _ => trivial

theorem answers_windowMax {planes : Planes} {data : Array Float32} {plane : Nat}
    (hdata : data.size = elementCount (planes.stack ++ [planes.height, planes.width]))
    (hplane : plane < elementCount planes.stack) (window : PlaneWindow) (row column : Nat) :
    AnswersAtAll (windowMax planes data window plane row column) := by
  unfold windowMax
  dsimp only
  refine Answers.bind (P := fun _ => True) ?_ fun _ _ => trivial
  apply answers_rectangle
  intro y hy x hx
  have hread := answers_planes_at? hdata hplane (lt_of_mem_positions hy) (lt_of_mem_positions hx)
  exact hread.bind fun _ _ => trivial

/-! ## The parameters of a window -/

/-- A value for each dimension of a plane is read alike from a list of one value or two. -/
theorem pair_alike {values : List Int} (hvalues : ∀ value ∈ values, value < 2 ^ 63)
    (details details' : String) :
    Alike (fun spread pair => spread = [pair.1, pair.2] ∧ pair.1 < 2 ^ 63 ∧ pair.2 < 2 ^ 63)
      (Rule.spatialParam values 2 details) (pairOf values details') := by
  match values with
  | [] => exact alike_error_error
  | [x] =>
    have hx := hvalues x (by simp)
    exact ⟨rfl, hx, hx⟩
  | [x, y] => exact ⟨rfl, hvalues x (by simp), hvalues y (by simp)⟩
  | _ :: _ :: _ :: _ => exact alike_error_error

/-- Without strides of their own, windows lie side by side on both sides. -/
theorem stride_alike {kernel : Int × Int} {stride : List Int}
    (hkernel : kernel.1 < 2 ^ 63 ∧ kernel.2 < 2 ^ 63) (hstride : ∀ value ∈ stride, value < 2 ^ 63)
    (details details' : String) :
    Alike (fun spread pair => spread = [pair.1, pair.2] ∧ pair.1 < 2 ^ 63 ∧ pair.2 < 2 ^ 63)
      (if stride.isEmpty then .ok [kernel.1, kernel.2] else Rule.spatialParam stride 2 details)
      (if stride.isEmpty then .ok kernel else pairOf stride details') := by
  by_cases hempty : stride.isEmpty = true
  · rw [if_pos hempty, if_pos hempty]
    exact ⟨rfl, hkernel⟩
  · rw [if_neg hempty, if_neg hempty]
    exact pair_alike hstride details details'

/-- The axis down a plane and the axis across it. -/
def planeAxes (kernel stride padding dilation : Int × Int) : Rule.Axis × Rule.Axis :=
  ({ kernel := kernel.1, padding := padding.1, stride := stride.1, dilation := dilation.1 },
    { kernel := kernel.2, padding := padding.2, stride := stride.2, dilation := dilation.2 })

/-- The window that numbers for each dimension give, once they are checked. -/
def checkedWindow (kernel stride padding dilation : Int × Int) (ceilMode : Bool) :
    OpResult PlaneWindow :=
  let isPositive (x : Int) : Bool := 0 < x
  if !(both isPositive kernel && both isPositive stride && both isPositive dilation) then
    invalid "Kernel size, stride and dilation must be positive"
  else if !both (fun p => 0 ≤ p) padding then
    invalid "Padding must be non-negative"
  else if kernel.1 / 2 < padding.1 ∨ kernel.2 / 2 < padding.2 then
    invalid "Padding must be at most half the kernel size"
  else
    let axes := planeAxes kernel stride padding dilation
    .ok { down := motionOf axes.1, across := motionOf axes.2, ceilMode }

/-- **The window that lists give**: first the numbers for each dimension, then what is checked. -/
theorem ofLists_eq (kernel stride padding dilation : List Int) (ceilMode : Bool) :
    PlaneWindow.ofLists kernel stride padding dilation ceilMode = (do
      let kernel ← pairOf kernel "Kernel size must have 1 or 2 values"
      let stride ←
        (if stride.isEmpty then .ok kernel else pairOf stride "Stride must have 0, 1 or 2 values")
      let padding ← pairOf padding "Padding must have 1 or 2 values"
      let dilation ← pairOf dilation "Dilation must have 1 or 2 values"
      checkedWindow kernel stride padding dilation ceilMode) := by
  unfold PlaneWindow.ofLists
  by_cases hempty : stride.isEmpty = true
  · simp only [if_pos hempty]
    rfl
  · simp only [if_neg hempty]
    rfl

/-- **A window is given exactly if pooling is possible along both axes.** -/
theorem checkedWindow_eq_ok {kernel stride padding dilation : Int × Int} {ceilMode : Bool}
    {window : PlaneWindow} :
    checkedWindow kernel stride padding dilation ceilMode = .ok window ↔
      Poolable (planeAxes kernel stride padding dilation).1 ∧
        Poolable (planeAxes kernel stride padding dilation).2 ∧
          window = {
            down := motionOf (planeAxes kernel stride padding dilation).1
            across := motionOf (planeAxes kernel stride padding dilation).2
            ceilMode } := by
  unfold checkedWindow both
  dsimp only
  constructor
  · intro h
    split_ifs at h with hpositive hnonneg hhalf
    · cases h
    · cases h
    · cases h
    · simp only [Bool.not_eq_true', Bool.not_eq_false, Bool.and_eq_true, decide_eq_true_eq,
        not_or, Int.not_lt] at hpositive hnonneg hhalf
      obtain ⟨⟨hkernel, hstride⟩, hdilation⟩ := hpositive
      exact ⟨⟨hkernel.1, hstride.1, hdilation.1, hnonneg.1, hhalf.1⟩,
        ⟨hkernel.2, hstride.2, hdilation.2, hnonneg.2, hhalf.2⟩, (Except.ok.inj h).symm⟩
  · rintro ⟨hdown, hacross, rfl⟩
    obtain ⟨hkernel, hstride, hdilation, hnonneg, hhalf⟩ := hdown
    obtain ⟨hkernel', hstride', hdilation', hnonneg', hhalf'⟩ := hacross
    unfold planeAxes at *
    dsimp only at *
    rw [if_neg (by simp [*]), if_neg (by simp [*]), if_neg (by omega)]

/-! ## Stacks of planes -/

/-- An input that is a stack of planes, of whose last three dimensions those from `nonemptyFrom` on
are not empty. -/
structure Stacked (sizes : Sizes) (nonemptyFrom : Nat) (planes : Planes) : Prop where
  planes_eq : Planes.ofSizes sizes nonemptyFrom = .ok planes
  sizes_eq : sizes = planes.stack ++ [planes.height, planes.width]
  rank : sizes.length = 3 ∨ sizes.length = 4
  nonempty : (sizes.drop (sizes.length - 3 + nonemptyFrom)).contains 0 = false

/-- **An input is a stack of planes** or is refused, for its rank or for a dimension that is
empty. -/
theorem stacked_cases (sizes : Sizes) (nonemptyFrom : Nat) :
    (∃ planes, Stacked sizes nonemptyFrom planes) ∨
      ((∃ failure, Planes.ofSizes sizes nonemptyFrom = .error failure) ∧
        ((sizes.length ≠ 3 ∧ sizes.length ≠ 4) ∨
          (sizes.drop (sizes.length - 3 + nonemptyFrom)).contains 0 = true)) := by
  unfold Planes.ofSizes
  cases hempty : (sizes.drop (sizes.length - 3 + nonemptyFrom)).contains 0 with
  | true =>
    refine .inr ⟨?_, .inr rfl⟩
    match sizes with
    | [] | [_] | [_, _] | _ :: _ :: _ :: _ :: _ :: _ => exact ⟨_, rfl⟩
    | [_, _, _] | [_, _, _, _] => exact ⟨_, if_pos rfl⟩
  | false =>
    match sizes with
    | [] | [_] | [_, _] | _ :: _ :: _ :: _ :: _ :: _ => exact .inr ⟨⟨_, rfl⟩, .inl (by simp)⟩
    | [c, h, w] =>
      refine .inl ⟨{ stack := [c], height := h, width := w }, ?_, rfl, .inl rfl, hempty⟩
      unfold Planes.ofSizes
      simp only [hempty, Bool.false_eq_true, if_false]
    | [n, c, h, w] =>
      refine .inl ⟨{ stack := [n, c], height := h, width := w }, ?_, rfl, .inr rfl, hempty⟩
      unfold Planes.ofSizes
      simp only [hempty, Bool.false_eq_true, if_false]

theorem stacked_of_eq {sizes : Sizes} {nonemptyFrom : Nat} {planes : Planes}
    (h : Planes.ofSizes sizes nonemptyFrom = .ok planes) : Stacked sizes nonemptyFrom planes := by
  rcases stacked_cases sizes nonemptyFrom with ⟨_, hplanes⟩ | ⟨⟨failure, hrefused⟩, -⟩
  · obtain rfl := Except.ok.inj (h.symm.trans hplanes.planes_eq)
    exact hplanes
  · rw [hrefused] at h
    cases h

namespace Stacked

variable {sizes : Sizes} {nonemptyFrom : Nat} {planes : Planes}

theorem ranked (h : Stacked sizes nonemptyFrom planes) :
    ¬ (sizes.length ≠ 3 ∧ sizes.length ≠ 4) := by
  have hrank := h.rank
  omega

theorem take_eq (h : Stacked sizes nonemptyFrom planes) :
    sizes.take (sizes.length - 2) = planes.stack := by
  rw [h.sizes_eq]
  simp

theorem drop_eq (h : Stacked sizes nonemptyFrom planes) :
    sizes.drop (sizes.length - 2) = [planes.height, planes.width] := by
  rw [h.sizes_eq]
  simp

/-- The last dimensions are not empty. -/
theorem plane_pos (h : Stacked sizes 0 planes) : 0 < planes.height ∧ 0 < planes.width := by
  have hpos : ∀ size ∈ [planes.height, planes.width], 0 < size := by
    intro size hsize
    have hrank := h.rank
    rw [← h.drop_eq, show sizes.length - 2 = sizes.length - 3 + 1 by omega,
      ← List.drop_drop] at hsize
    have hnonempty := h.nonempty
    rw [Nat.add_zero, List.contains_eq_mem, decide_eq_false_iff_not] at hnonempty
    refine Nat.pos_of_ne_zero fun hzero => hnonempty ?_
    exact hzero ▸ List.mem_of_mem_drop hsize
  exact ⟨hpos _ (by simp), hpos _ (by simp)⟩

theorem size_data {input : Tensor α} (h : Stacked input.sizes nonemptyFrom planes) :
    input.data.size = elementCount (planes.stack ++ [planes.height, planes.width]) := by
  rw [input.size_data, ← h.sizes_eq]

end Stacked

/-! ## All checks together -/

/-- The rule for a stack of planes counts the places down and across. -/
theorem pooledOver_eq {sizes : Sizes} {planes : Planes} (h : Stacked sizes 0 planes)
    (down across : Rule.Axis) (ceilMode : Bool) :
    Rule.pooledOver sizes [down, across] ceilMode = (do
      let rows ← Rule.pooledSize ceilMode (planes.height, down)
      let columns ← Rule.pooledSize ceilMode (planes.width, across)
      .ok (planes.stack ++ [rows, columns])) := by
  have hnonempty : ¬ (sizes.drop (sizes.length - 3)).contains 0 = true := by
    simpa using h.nonempty
  unfold Rule.pooledOver
  rw [if_neg h.ranked, if_neg hnonempty, h.take_eq, h.drop_eq]
  simp only [List.zip_cons_cons, List.zip_nil_right, List.mapM_cons, List.mapM_nil, bind_assoc,
    pure_bind]

/-- The rule refuses what is no stack of planes. -/
theorem pooledOver_refuses {sizes : Sizes}
    (h : (sizes.length ≠ 3 ∧ sizes.length ≠ 4) ∨ (sizes.drop (sizes.length - 3)).contains 0 = true)
    (axes : List Rule.Axis) (ceilMode : Bool) :
    ∃ failure, Rule.pooledOver sizes axes ceilMode = .error failure := by
  unfold Rule.pooledOver
  by_cases hrank : sizes.length ≠ 3 ∧ sizes.length ≠ 4
  · rw [if_pos hrank]
    exact ⟨_, rfl⟩
  · rw [if_neg hrank, if_pos (h.resolve_left hrank)]
    exact ⟨_, rfl⟩

section Pooling

variable {sizes : Sizes} {R : Sizes → β → Prop} {f : PlaneWindow → Planes → Nat → Nat → OpResult β}

/-- **Numbers for each dimension are checked, and places are counted, alike.**  The rule looks at the
input before it looks at the numbers, and at those one dimension after the other; the operator looks
at all numbers first.  What is left to the operator is `f`, which may rely on the stack of planes. -/
theorem pooledOver_alike {kernel stride padding dilation : Int × Int} (ceilMode : Bool)
    (hdown : AxisFits (planeAxes kernel stride padding dilation).1)
    (hacross : AxisFits (planeAxes kernel stride padding dilation).2)
    (hf : ∀ window planes rows columns, Stacked sizes 0 planes →
      Answers (R (planes.stack ++ [rows, columns])) (f window planes rows columns)) :
    Alike R
      (Rule.pooledOver sizes [(planeAxes kernel stride padding dilation).1,
        (planeAxes kernel stride padding dilation).2] ceilMode)
      (do
        let window ← checkedWindow kernel stride padding dilation ceilMode
        let planes ← Planes.ofSizes sizes 0
        let rows ← window.down.count window.ceilMode planes.height
        let columns ← window.across.count window.ceilMode planes.width
        f window planes rows columns) := by
  rcases stacked_cases sizes 0 with ⟨planes, hplanes⟩ | ⟨⟨failure, hrefused⟩, hshape⟩
  · rw [pooledOver_eq hplanes]
    cases hwindow : checkedWindow kernel stride padding dilation ceilMode with
    | ok window =>
      obtain ⟨hdown', hacross', rfl⟩ := checkedWindow_eq_ok.mp hwindow
      rw [ok_bind, hplanes.planes_eq, ok_bind]
      apply (count_alike hdown' hdown ceilMode planes.height).bind
      rintro rows _ rfl
      apply (count_alike hacross' hacross ceilMode planes.width).bind
      rintro columns _ rfl
      exact (hf _ planes rows columns hplanes).alike
    | error failure =>
      -- Had the rule found both sizes, it would have checked the numbers of both axes.
      rw [error_bind]
      cases hrule : Rule.pooledSize ceilMode
          (planes.height, (planeAxes kernel stride padding dilation).1) with
      | error _ => trivial
      | ok rows =>
        rw [ok_bind]
        cases hrule' : Rule.pooledSize ceilMode
            (planes.width, (planeAxes kernel stride padding dilation).2) with
        | error _ => trivial
        | ok columns =>
          have hok : checkedWindow kernel stride padding dilation ceilMode = .ok _ :=
            checkedWindow_eq_ok.mpr
              ⟨poolable_of_pooledSize hrule, poolable_of_pooledSize hrule', rfl⟩
          rw [hok] at hwindow
          cases hwindow
  · obtain ⟨failure', hrule⟩ := pooledOver_refuses hshape
      [(planeAxes kernel stride padding dilation).1, (planeAxes kernel stride padding dilation).2]
      ceilMode
    rw [hrule]
    apply alike_error_bind
    intro window
    rw [hrefused, error_bind]
    exact alike_error_error

/-- **Pooling follows its rule** up to what is done with each window. -/
theorem pool2d_alike {kernel stride padding dilation : List Int} (ceilMode : Bool)
    (hkernel : ∀ value ∈ kernel, value < 2 ^ 63) (hstride : ∀ value ∈ stride, value < 2 ^ 63)
    (hpadding : ∀ value ∈ padding, value < 2 ^ 63) (hdilation : ∀ value ∈ dilation, value < 2 ^ 63)
    (hf : ∀ window planes rows columns, Stacked sizes 0 planes →
      Answers (R (planes.stack ++ [rows, columns])) (f window planes rows columns)) :
    Alike R (Rule.pool2d sizes kernel stride padding dilation ceilMode)
      (do
        let window ← PlaneWindow.ofLists kernel stride padding dilation ceilMode
        let planes ← Planes.ofSizes sizes 0
        let rows ← window.down.count window.ceilMode planes.height
        let columns ← window.across.count window.ceilMode planes.width
        f window planes rows columns) := by
  rw [Rule.pool2d_eq, ofLists_eq]
  simp only [bind_assoc]
  apply (pair_alike hkernel _ _).bind
  rintro _ k ⟨rfl, hk⟩
  apply (stride_alike hk hstride _ _).bind
  rintro _ s ⟨rfl, hs⟩
  apply (pair_alike hpadding _ _).bind
  rintro _ p ⟨rfl, hp⟩
  apply (pair_alike hdilation _ _).bind
  rintro _ d ⟨rfl, hd⟩
  exact pooledOver_alike ceilMode ⟨hk.1, hs.1, hd.1, hp.1⟩ ⟨hk.2, hs.2, hd.2, hp.2⟩ hf

end Pooling

end OpShape.Operator
