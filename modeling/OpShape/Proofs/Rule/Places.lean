/-
# `OpShape.Proofs.Rule.Places` — the places of a pooling window, counted one by one.

A window is admitted at a place by where it starts and ends, and nothing is said there about
divisions.  The rules divide: what a window has room for, by its stride, rounded down or up, with one
place taken away where rounding up leaves a window behind the input.  Both count the same places.

Rounding up never leaves more than one such window.  The last place but one starts before the room
ends, and the room ends before the padding behind the input does, because a window spans at least its
own padding: that is what the bound on the padding is for.
-/
import Mathlib.Data.Set.Card
import OpShape.Proofs.Operator.Window
import OpShape.Proofs.Rule.Convolution

namespace OpShape.Rule

open Operator (AxisFits Poolable WindowMotion motionOf signed_toNat)

/-! ## Windows that are admitted -/

/-- How much of a dimension a window spans, from its first entry to its last one. -/
def Axis.span (axis : Axis) : Int :=
  axis.dilation * (axis.kernel - 1) + 1

/-- **A window may take a place** if it ends inside the padded input.  Rounding up, it has to start
inside the input or in the padding before it, and the window before it must not have reached the end
of the padded input. -/
def Axis.Admits (axis : Axis) (ceilMode : Bool) (size place : Nat) : Prop :=
  if ceilMode then
    place * axis.stride < size + axis.padding ∧
      ((place : Int) - 1) * axis.stride + axis.span < size + 2 * axis.padding
  else
    place * axis.stride + axis.span ≤ size + 2 * axis.padding

section Axis

variable {axis : Axis} {size : Nat}

theorem room_eq (size : Nat) (axis : Axis) :
    room size axis = size + 2 * axis.padding - axis.span := by
  unfold room Axis.span
  omega

theorem movable_of_poolable (h : Poolable axis) : axis.Movable :=
  ⟨h.kernel_pos, h.padding_nonneg, h.stride_pos, h.dilation_pos⟩

/-- A window spans more than its own padding. -/
theorem padding_lt_span (h : Poolable axis) : axis.padding < axis.span := by
  have hkernel := h.kernel_pos
  have hhalf := h.padding_le
  have hdilation : 1 * (axis.kernel - 1) ≤ axis.dilation * (axis.kernel - 1) :=
    Int.mul_le_mul_of_nonneg_right h.dilation_pos (by omega)
  unfold Axis.span
  omega

/-- A window that may take a place starts inside the input or in the padding before it. -/
theorem Axis.Admits.start_lt {ceilMode : Bool} {place : Nat} (h : Poolable axis)
    (hadmits : axis.Admits ceilMode size place) : place * axis.stride < size + axis.padding := by
  unfold Axis.Admits at hadmits
  cases ceilMode with
  | false =>
    have hspan := padding_lt_span h
    simp only [Bool.false_eq_true, if_false] at hadmits
    omega
  | true => exact hadmits.1

/-- The first window that is admitted ends less than a stride behind the padding. -/
theorem Axis.Admits.reach_lt {ceilMode : Bool} (h : Poolable axis)
    (hadmits : axis.Admits ceilMode size 0) :
    axis.span < size + 2 * axis.padding + axis.stride := by
  have hstride := h.stride_pos
  unfold Axis.Admits at hadmits
  cases ceilMode with
  | false =>
    simp only [Bool.false_eq_true, if_false] at hadmits
    omega
  | true =>
    obtain ⟨-, hreach⟩ := hadmits
    omega

/-- Rounded down, a place is counted if its window ends in time. -/
theorem lt_floor_iff (h : 0 < axis.stride) (place : Int) :
    place < room size axis / axis.stride + 1 ↔
      place * axis.stride + axis.span ≤ size + 2 * axis.padding := by
  rw [Int.lt_add_one_iff, Int.le_ediv_iff_mul_le h, room_eq]
  omega

/-- Rounded up, a place is counted if the window before it ends too early. -/
theorem lt_ceil_iff (h : 0 < axis.stride) (place : Int) :
    place < (room size axis + (axis.stride - 1)) / axis.stride + 1 ↔
      (place - 1) * axis.stride + axis.span < size + 2 * axis.padding := by
  rw [Int.lt_add_one_iff, Int.le_ediv_iff_mul_le h, room_eq, Int.sub_mul]
  omega

/-- **The windows that are admitted take the first places**, as many as are counted. -/
theorem admits_iff_lt (h : Poolable axis) (ceilMode : Bool) (place : Nat) :
    axis.Admits ceilMode size place ↔ place < placeCount ceilMode size axis := by
  unfold Axis.Admits placeCount
  cases ceilMode with
  | false =>
    simp only [Bool.false_eq_true, if_false]
    exact (lt_floor_iff h.stride_pos place).symm
  | true =>
    simp only [if_true, ← lt_ceil_iff h.stride_pos (place : Int)]
    generalize hlast : (room size axis + (axis.stride - 1)) / axis.stride = last
    rw [Int.add_sub_cancel]
    by_cases hbehind : size + axis.padding ≤ last * axis.stride
    · rw [if_pos hbehind]
      constructor
      · rintro ⟨hstart, -⟩
        exact Int.lt_of_mul_lt_mul_right (Int.lt_of_lt_of_le hstart hbehind)
          (Int.le_of_lt h.stride_pos)
      · intro hplace
        -- One place earlier the window starts before the room ends, hence before the padding does.
        have hearly := (@lt_ceil_iff axis size h.stride_pos last).mp (by omega)
        have hspan := padding_lt_span h
        have hstep : place * axis.stride ≤ (last - 1) * axis.stride :=
          Int.mul_le_mul_of_nonneg_right (by omega) (Int.le_of_lt h.stride_pos)
        exact ⟨by omega, by omega⟩
    · rw [if_neg hbehind]
      constructor
      · exact fun hadmits => hadmits.2
      · intro hplace
        have hstep : place * axis.stride ≤ last * axis.stride :=
          Int.mul_le_mul_of_nonneg_right (by omega) (Int.le_of_lt h.stride_pos)
        exact ⟨by omega, hplace⟩

/-- There are as many windows that are admitted as are counted. -/
theorem encard_admits (h : Poolable axis) (ceilMode : Bool) :
    {place : Nat | axis.Admits ceilMode size place}.encard =
      (placeCount ceilMode size axis).toNat := by
  have hfirst : {place : Nat | axis.Admits ceilMode size place} =
      Finset.range (placeCount ceilMode size axis).toNat := by
    ext place
    rw [Set.mem_ofPred_eq, admits_iff_lt h, Finset.mem_coe, Finset.mem_range, Int.lt_toNat]
  rw [hfirst, Set.encard_coe_eq_coe_finsetCard, Finset.card_range]

end Axis

/-! ## Both rules -/

/-- The operators compute the same number as the rules. -/
theorem count_eq {axis : Axis} {size : Nat} (h : Poolable axis) (hfits : AxisFits axis)
    (hsize : size < 2 ^ 63) (ceilMode : Bool) :
    (motionOf axis).count ceilMode size =
      if placeCount ceilMode size axis ≤ 0 then
        Operator.invalid "Pooling output size is too small"
      else .ok (placeCount ceilMode size axis).toNat := by
  unfold WindowMotion.count placeCount motionOf
  dsimp only
  rw [signed_toNat (Int.le_of_lt h.kernel_pos) hfits.kernel_lt,
    signed_toNat (Int.le_of_lt h.stride_pos) hfits.stride_lt,
    signed_toNat (Int.le_of_lt h.dilation_pos) hfits.dilation_lt,
    signed_toNat h.padding_nonneg hfits.padding_lt, signed_of_lt hsize, ← room,
    Checked.ediv_of_ne_zero (Int.ne_of_gt h.stride_pos), ok_bind]
  cases ceilMode with
  | false => simp only [Bool.false_eq_true, Bool.false_and, if_false]
  | true => simp only [Bool.true_and, if_true, decide_eq_true_eq, Int.add_sub_assoc]

/-- **Pooling counts the windows that are admitted.**  Where the numbers of an axis are checked and
are words, both rules answer with the number of windows that are admitted along a dimension, whether
they round down or up; and both refuse exactly if there are none. -/
theorem poolOutputSize_counts_places {axis : Axis} (h : Poolable axis) (hfits : AxisFits axis)
    {size : Nat} (hsize : size < 2 ^ 63) (ceilMode : Bool) :
    ∃ places : Nat, {place : Nat | axis.Admits ceilMode size place}.encard = places ∧
      poolOutputSize size axis ceilMode =
        (if places = 0 then invalid "output size is too small" else .ok places) ∧
      (motionOf axis).count ceilMode size =
        (if places = 0 then Operator.invalid "Pooling output size is too small"
        else .ok places) := by
  have hnone : placeCount ceilMode size axis ≤ 0 ↔ (placeCount ceilMode size axis).toNat = 0 :=
    Int.toNat_eq_zero.symm
  refine ⟨(placeCount ceilMode size axis).toNat, encard_admits h ceilMode, ?_, ?_⟩
  · rw [poolOutputSize_eq (movable_of_poolable h) hsize]
    simp only [hnone]
  · rw [count_eq h hfits hsize]
    simp only [hnone]

/-- Rounding up, a third window would start in the padding behind five elements. -/
theorem poolOutputSize_counts_places_behind :
    let axis : Axis := { kernel := 2, padding := 1, stride := 3, dilation := 1 }
    Poolable axis ∧ AxisFits axis ∧ {place : Nat | axis.Admits true 5 place}.encard = 2 ∧
      poolOutputSize 5 axis true = .ok 2 ∧ (motionOf axis).count true 5 = .ok 2 := by
  intro axis
  have hpoolable : Poolable axis := ⟨by decide, by decide, by decide, by decide, by decide⟩
  have hfits : AxisFits axis := ⟨by decide, by decide, by decide, by decide⟩
  obtain ⟨places, hplaces, hrule, hoperator⟩ :=
    @poolOutputSize_counts_places axis hpoolable hfits 5 (by decide) true
  have htwo : poolOutputSize 5 axis true = .ok 2 := by decide
  obtain rfl : places = 2 := by
    rw [htwo] at hrule
    split at hrule
    · cases hrule
    · exact (Except.ok.inj hrule).symm
  exact ⟨hpoolable, hfits, hplaces, hrule, hoperator⟩

end OpShape.Rule
