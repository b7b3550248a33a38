/-
# `OpShape.Proofs.Operator.Adaptive` — how adaptive pooling divides a dimension up.

A dimension is cut into as many parts of one length as the answer has positions, and a range takes in
every element that its part touches: it starts with the cut before it, rounded down, and stops with
the cut behind it, rounded up.  All that is known of the ranges follows from these two roundings, each
of which is the best of its kind.  Two neighbours share the element that the cut between them goes
through, and no other; where all cuts fall between elements they share nothing.
-/
import Mathlib.Algebra.Order.Floor.Div
import OpShape.Proofs.Operator.Window

namespace OpShape.Operator

/-- Where the range of a position starts: at the element that the cut before it goes through. -/
def rangeStart (size out i : Nat) : Nat :=
  i * size / out

/-- Where the range of a position stops: behind the element that the cut behind it goes through. -/
def rangeStop (size out i : Nat) : Nat :=
  ((i + 1) * size) ⌈/⌉ out

theorem rangeStart_mono (size out : Nat) : Monotone (rangeStart size out) :=
  fun _ _ hij => Nat.div_le_div_right (Nat.mul_le_mul_right size hij)

/-- Rounding one cut down and up leaves no gap. -/
theorem rangeStart_succ_le (size out i : Nat) :
    rangeStart size out (i + 1) ≤ rangeStop size out i := by
  show ((i + 1) * size) ⌊/⌋ out ≤ ((i + 1) * size) ⌈/⌉ out
  exact floorDiv_le_ceilDiv

section Ranges

variable {size out i position : Nat} (hout : 0 < out)

include hout

/-- **The range of a position** is everything from its start up to its stop. -/
theorem adaptiveRange_eq (size i : Nat) :
    adaptiveRange i size out =
      .ok (List.range' (rangeStart size out i) (rangeStop size out i - rangeStart size out i)) := by
  unfold adaptiveRange rangeStart rangeStop
  rw [Checked.div_of_ne_zero (Nat.ne_of_gt hout), Checked.div_of_ne_zero (Nat.ne_of_gt hout),
    ok_bind, ok_bind, Nat.ceilDiv_eq_add_pred_div, Nat.add_sub_assoc hout,
    List.range'_eq_map_range]

/-! ## Single ranges -/

theorem rangeStop_le_iff : rangeStop size out i ≤ position ↔ (i + 1) * size ≤ out * position :=
  ceilDiv_le_iff_le_mul hout

theorem lt_rangeStop_iff : position < rangeStop size out i ↔ out * position < (i + 1) * size :=
  lt_iff_lt_of_le_iff_le (rangeStop_le_iff hout)

theorem rangeStart_lt_rangeStop (hsize : 0 < size) (i : Nat) :
    rangeStart size out i < rangeStop size out i := by
  rw [lt_rangeStop_iff hout]
  have hcut : out * rangeStart size out i ≤ i * size := Nat.mul_div_le (i * size) out
  rw [Nat.succ_mul]
  omega

theorem rangeStop_le (hi : i < out) : rangeStop size out i ≤ size :=
  (rangeStop_le_iff hout).mpr (Nat.mul_le_mul_right size hi)

theorem rangeStop_last (size : Nat) : rangeStop size out (out - 1) = size := by
  unfold rangeStop
  rw [Nat.sub_add_cancel hout]
  exact smul_ceilDiv hout size

/-- Each element lies in a range: in that of the part that the element starts in. -/
theorem exists_range (hposition : position < size) :
    ∃ i < out, rangeStart size out i ≤ position ∧ position < rangeStop size out i := by
  have hsize := Nat.zero_lt_of_lt hposition
  refine ⟨position * out / size, ?_, ?_, ?_⟩
  · rw [Nat.div_lt_iff_lt_mul hsize, Nat.mul_comm out]
    exact Nat.mul_lt_mul_of_pos_right hposition hout
  · exact Nat.div_le_of_le_mul (Nat.mul_comm position out ▸ Nat.div_mul_le_self _ _)
  · rw [lt_rangeStop_iff hout, Nat.mul_comm out, Nat.mul_comm _ size]
    exact Nat.lt_mul_div_succ _ hsize

/-! ## Neighbours -/

theorem rangeStop_mono : Monotone (rangeStop size out) := by
  intro i j hij
  rw [rangeStop_le_iff hout]
  calc (i + 1) * size ≤ (j + 1) * size := Nat.mul_le_mul_right size (Nat.succ_le_succ hij)
    _ ≤ out * rangeStop size out j := (rangeStop_le_iff hout).mp (Nat.le_refl _)

/-- Rounding one cut down and up gives neighbouring elements. -/
theorem rangeStop_le_succ (size i : Nat) :
    rangeStop size out i ≤ rangeStart size out (i + 1) + 1 :=
  (rangeStop_le_iff hout).mpr (Nat.le_of_lt (Nat.lt_mul_div_succ _ hout))

/-- Cuts that fall between elements are not rounded. -/
theorem range_of_dvd (hdvd : out ∣ size) (i : Nat) :
    rangeStart size out i = i * (size / out) ∧ rangeStop size out i = (i + 1) * (size / out) := by
  obtain ⟨part, rfl⟩ := hdvd
  unfold rangeStart rangeStop
  rw [Nat.mul_div_cancel_left part hout, Nat.mul_left_comm i, Nat.mul_left_comm (i + 1),
    Nat.mul_div_cancel_left _ hout]
  exact ⟨rfl, smul_ceilDiv hout _⟩

end Ranges

/-- **Adaptive pooling covers a dimension.**  The ranges run from its first element to its last one,
none of them is empty or leaves the dimension, and each element lies in one of them.  They start and
stop in their order; two neighbours leave no gap and share one element at most.  If as many elements
fall to each range, the ranges have that length, and no two of them share an element. -/
theorem adaptiveRange_covers {size out : Nat} (hsize : 0 < size) (hout : 0 < out) :
    ∃ start stop : Nat → Nat,
      (∀ i, adaptiveRange i size out = .ok (List.range' (start i) (stop i - start i))) ∧
      start 0 = 0 ∧ stop (out - 1) = size ∧
      (∀ i < out, start i < stop i ∧ stop i ≤ size) ∧
      (∀ position < size, ∃ i < out, start i ≤ position ∧ position < stop i) ∧
      Monotone start ∧ Monotone stop ∧
      (∀ i, start (i + 1) ≤ stop i ∧ stop i ≤ start (i + 1) + 1) ∧
      (out ∣ size →
        (∀ i, stop i - start i = size / out) ∧ ∀ i j, i < j → stop i ≤ start j) := by
  refine ⟨rangeStart size out, rangeStop size out, adaptiveRange_eq hout size, ?_,
    rangeStop_last hout size, ?_, fun _ => exists_range hout, rangeStart_mono size out,
    rangeStop_mono hout, ?_, ?_⟩
  · unfold rangeStart
    rw [Nat.zero_mul, Nat.zero_div]
  · exact fun i hi => ⟨rangeStart_lt_rangeStop hout hsize i, rangeStop_le hout hi⟩
  · exact fun i => ⟨rangeStart_succ_le size out i, rangeStop_le_succ hout size i⟩
  · intro hdvd
    constructor
    · intro i
      obtain ⟨hstart, hstop⟩ := range_of_dvd hout hdvd i
      rw [hstart, hstop, Nat.succ_mul, Nat.add_sub_cancel_left]
    · intro i j hij
      rw [(range_of_dvd hout hdvd i).2, (range_of_dvd hout hdvd j).1]
      exact Nat.mul_le_mul_right _ hij

/-- Five elements for three positions, of which neighbours share one. -/
theorem adaptiveRange_covers_five :
    adaptiveRange 0 5 3 = .ok [0, 1] ∧ adaptiveRange 1 5 3 = .ok [1, 2, 3] ∧
      adaptiveRange 2 5 3 = .ok [3, 4] ∧
      ∃ start stop : Nat → Nat,
        (∀ i, adaptiveRange i 5 3 = .ok (List.range' (start i) (stop i - start i))) ∧
        start 0 = 0 ∧ stop 2 = 5 ∧ ∀ i, start (i + 1) ≤ stop i ∧ stop i ≤ start (i + 1) + 1 := by
  obtain ⟨start, stop, hrange, hfirst, hlast, -, -, -, -, hneighbours, -⟩ :=
    @adaptiveRange_covers 5 3 (by decide) (by decide)
  exact ⟨by decide, by decide, by decide, start, stop, hrange, hfirst, hlast, hneighbours⟩

end OpShape.Operator
