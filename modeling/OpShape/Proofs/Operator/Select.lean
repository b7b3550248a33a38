/-
# `OpShape.Proofs.Operator.Select` — single positions and ranges follow their rules.

The number of positions of a range is rounded in two ways: the rule rounds the distance to the last
position down and adds one, the operator rounds the whole length up, with a sum that may leave the
words.  If it does not, both are the same number, and the last of so many positions still lies before
the end of the range.  A size that is taken for a negative number breaks down on both sides.
-/
import OpShape.Builtin.Index
import OpShape.Operator.Index
import OpShape.Proofs.Operator.Agreement

namespace OpShape.Operator

open Tensor (HasSizes answers_ofIndices answers_at?)

variable {α : Type}

-- The word of a size is known by its bounds alone; to unfold it is to compute with `2 ^ 64`.
attribute [local irreducible] signed

/-! ## One position -/

theorem answers_select {input : Tensor α} {axis position : Nat} (haxis : axis < input.sizes.length)
    (hposition : position < sizeAt input.sizes axis) :
    Answers (HasSizes (input.sizes.eraseIdx axis)) (select input axis position) := by
  unfold select
  rw [Checked.eraseIdx_of_lt haxis, ok_bind]
  apply answers_ofIndices
  intro index hindex
  have hle : axis ≤ index.length := by
    rw [hindex.length, List.length_eraseIdx_of_lt haxis]
    omega
  rw [Checked.insertIdx_of_le hle, ok_bind]
  exact answers_at? (inside_insertIdx hindex haxis hposition)

theorem selectOf_alike (bound : TensorArgs) :
    Alike SingleOf (Builtin.selected (bound.map RealTensor.sizes)) (selectOf bound) := by
  unfold selectOf Builtin.selected Rule.select
  apply (alike_floats "self" bound).bind
  rintro _ input rfl
  by_cases hscalar : input.sizes = []
  · have hempty : input.sizes.isEmpty = true := List.isEmpty_iff.mpr hscalar
    simp only [hempty, if_true]
    exact alike_bind_error fun _ => alike_bind_error fun _ => alike_error_error
  · have hempty : ¬ input.sizes.isEmpty = true := mt List.isEmpty_iff.mp hscalar
    have hpos := List.length_pos_of_ne_nil hscalar
    simp only [if_neg hempty]
    apply (alike_int "dim" bound).bind
    rintro dim _ rfl
    refine alike_comm_right.mpr ((alike_int "index" bound).bind ?_)
    rintro index _ rfl
    apply (alike_axis dim input.sizes.length).bind
    rintro axis _ ⟨rfl, haxis⟩
    have haxis' : axis < input.sizes.length := by omega
    rw [get_eq_sizeAt haxis', get_eq_sizeAt haxis', ok_bind, ok_bind]
    rcases resolveIndex_cases index (sizeAt input.sizes axis) with
      ⟨position, hrule, hoperator, hposition⟩ | ⟨failure, failure', hrule, hoperator⟩
    · rw [hrule, hoperator, ok_bind, ok_bind, Checked.eraseIdx_of_lt haxis']
      exact Alike.single (answers_select haxis' hposition).alike
    · rw [hrule, hoperator]
      exact alike_error_error

/-! ## Ranges -/

/-- A bound of a range as a position: from the end if it is negative, and inside the dimension. -/
def clampedBound (span bound : Int) : Int :=
  max 0 (min span (if bound < 0 then bound + span else bound))

/-- The rule and the operator move the bounds of a range alike, to where they lie in the dimension,
unless its size is taken for a negative number. -/
theorem sliceBound_cases (size : Nat) :
    (∀ bound, Rule.clampBound (signed size) bound = .ok (clampedBound (signed size) bound) ∧
        sliceBound size bound = .ok (clampedBound (signed size) bound) ∧
          0 ≤ clampedBound (signed size) bound ∧ clampedBound (signed size) bound ≤ size) ∨
      ∀ bound, Rule.clampBound (signed size) bound = .error (.fault .emptyRange) ∧
        sliceBound size bound = .error (.fault .emptyRange) := by
  have hspan := signed_le size
  unfold Rule.clampBound sliceBound clampedBound Checked.clamp
  generalize signed size = span at hspan
  by_cases hnonneg : 0 ≤ span
  · refine .inl fun bound => ⟨if_pos hnonneg, if_pos hnonneg, ?_, ?_⟩
    · omega
    · omega
  · exact .inr fun bound => ⟨if_neg hnonneg, if_neg hnonneg⟩

/-- The number of positions in a range: none if it is empty. -/
def rangeCount (start stop step : Int) : Int :=
  if start < stop then (stop - start - 1) / step + 1 else 0

/-- **Rounding up is rounding the distance to the last position down**, plus one. -/
theorem rangeCount_eq_ceil {start stop step : Int} (hstep : 0 < step) :
    (if start < stop then (stop - start + step - 1).tdiv step else 0) =
      rangeCount start stop step := by
  unfold rangeCount
  by_cases horder : start < stop
  · rw [if_pos horder, if_pos horder, Int.tdiv_eq_ediv_of_nonneg (by omega)]
    -- One more step is one more position.
    have hsplit : stop - start + step - 1 = stop - start - 1 + step * 1 := by omega
    rw [hsplit, Int.add_mul_ediv_left _ _ (by omega)]
  · rw [if_neg horder, if_neg horder]

/-- The length that the rule goes on with. -/
theorem rangeCount_eq_rule {ε β : Type} {start stop step : Int} (hstep : 0 < step)
    (next : Int → Checked ε β) :
    (if max stop start = start then do
        let length ← pure 0
        next length
      else do
        let distance ← Checked.tdiv (max stop start - start - 1) step
        let length ← pure (distance + 1)
        next length) = next (rangeCount start stop step) := by
  unfold rangeCount
  by_cases horder : start < stop
  · have hmax : max stop start = stop := by omega
    have hne : ¬ stop = start := by omega
    rw [hmax, if_neg hne, if_pos horder, Checked.tdiv_of_ne_zero (by omega), ok_bind,
      Int.tdiv_eq_ediv_of_nonneg (by omega)]
    rfl
  · have hmax : max stop start = start := by omega
    rw [if_pos hmax, if_neg horder]
    rfl

/-- The length of a range and its step make up no more than a word. -/
def RangeFits (start stop step : Int) : Prop :=
  start < stop → stop - start + step ≤ 2 ^ 63

/-- A range that fits has as many positions when they are counted in words. -/
theorem rangeCount_eq_words {start stop step : Int} (hstep : 0 < step)
    (hfits : RangeFits start stop step) :
    wordSize (if start < stop then (toWord (stop - start + step - 1)).tdiv step else 0) =
      (rangeCount start stop step).toNat := by
  have hceil := @rangeCount_eq_ceil start stop step hstep
  by_cases horder : start < stop
  · have hsum := hfits horder
    have hpos : 0 ≤ stop - start + step - 1 := by omega
    rw [if_pos horder] at hceil ⊢
    have hle : (stop - start + step - 1).tdiv step ≤ stop - start + step - 1 :=
      Int.tdiv_le_self _ hpos
    rw [toWord_of_mem (by omega) (by omega),
      wordSize_of_mem (Int.tdiv_nonneg hpos (Int.le_of_lt hstep)) (by omega), hceil]
  · rw [if_neg horder] at hceil ⊢
    rw [← hceil]
    rfl

/-- **Every position of a range lies before its end.** -/
theorem rangeCount_position {start stop step i : Int} (hstep : 0 < step)
    (hi : i < rangeCount start stop step) (hnonneg : 0 ≤ i) : start + i * step < stop := by
  unfold rangeCount at hi
  split at hi
  · have hle : i ≤ (stop - start - 1) / step := by omega
    have hmul : i * step ≤ (stop - start - 1) / step * step :=
      Int.mul_le_mul_of_nonneg_right hle (by omega)
    have hfloor : (stop - start - 1) / step * step ≤ stop - start - 1 :=
      Int.ediv_mul_le _ (by omega)
    omega
  · omega

theorem answers_slice {input : Tensor α} {axis start count step : Nat}
    (haxis : axis < input.sizes.length)
    (hinside : ∀ i < count, start + i * step < sizeAt input.sizes axis) :
    Answers (HasSizes (input.sizes.set axis count)) (slice input axis start count step) := by
  unfold slice
  rw [Checked.set_of_lt haxis, ok_bind]
  apply answers_ofIndices
  intro index hindex
  obtain ⟨haxis', hcount⟩ := hindex.coordinate_set haxis
  rw [Checked.get_of_lt haxis', ok_bind]
  exact answers_at? (inside_set hindex (hinside _ hcount))

/-- A range of positions follows its rule, once its arguments are known. -/
theorem slice_alike {input : Tensor Float32} (hscalar : input.sizes ≠ []) (dim : Int)
    (start stop : Option Int) (step : Int)
    (hfits : ∀ axis, resolveAxis input.sizes.length dim = .ok axis →
      let span := signed (sizeAt input.sizes axis)
      RangeFits (clampedBound span (start.getD 0)) (clampedBound span (stop.getD span)) step) :
    Alike SingleOf (Rule.slice input.sizes dim start stop step)
      (do
        let axis ← resolveAxis input.sizes.length dim
        let size ← Checked.get input.sizes axis
        let (start, count) ← sliceRange size start stop step
        one (← slice input axis start count step.toNat)) := by
  have hempty : ¬ input.sizes.isEmpty = true := mt List.isEmpty_iff.mp hscalar
  have hpos := List.length_pos_of_ne_nil hscalar
  unfold Rule.slice
  rw [if_neg hempty]
  by_cases hstep : step ≤ 0
  · rw [if_pos hstep]
    unfold sliceRange
    simp only [if_pos hstep]
    exact alike_error_bind fun _ => alike_error_bind fun _ => alike_error_error
  · rw [if_neg hstep]
    have hstep' : 0 < step := Int.not_le.mp hstep
    apply (alike_axis dim input.sizes.length).and_eq_ok.bind
    rintro axis _ ⟨⟨rfl, haxis⟩, hresolved⟩
    have haxis' : axis < input.sizes.length := by omega
    have hrange := hfits axis hresolved
    rw [get_eq_sizeAt haxis', get_eq_sizeAt haxis', ok_bind, ok_bind]
    generalize hat : sizeAt input.sizes axis = size at hrange
    unfold sliceRange
    rw [if_neg hstep]
    dsimp only
    rcases sliceBound_cases size with hbounds | hbroken
    swap
    · rw [(hbroken (start.getD 0)).1, (hbroken (start.getD 0)).2]
      exact alike_error_error
    obtain ⟨hrule, hoperator, hfirst, -⟩ := hbounds (start.getD 0)
    obtain ⟨hrule', hoperator', -, hlast⟩ := hbounds (stop.getD (signed size))
    rw [hrule, hrule', hoperator, hoperator']
    dsimp only at hrange
    generalize clampedBound (signed size) (start.getD 0) = first at hrange hfirst ⊢
    generalize clampedBound (signed size) (stop.getD (signed size)) = last at hrange hlast ⊢
    simp only [ok_bind]
    rw [rangeCount_eq_rule hstep' fun length => Checked.set input.sizes axis length.toNat,
      rangeCount_eq_words hstep' hrange, Checked.set_of_lt haxis']
    refine Alike.single (answers_slice haxis' ?_).alike
    intro i hi
    -- The bounds are signed and the positions are not; both are the same numbers here.
    have hposition : first + i * step < last := rangeCount_position hstep' (by omega) (by omega)
    have hcast : ((first.toNat + i * step.toNat : Nat) : Int) = first + i * step := by
      rw [Int.natCast_add, Int.natCast_mul, Int.toNat_of_nonneg hfirst,
        Int.toNat_of_nonneg (Int.le_of_lt hstep')]
    omega

/-- The range that a call names fits, along whatever axis it is taken. -/
def RangeArgsFit (bound : TensorArgs) : Prop :=
  ∀ input dim axis start stop step, floatArg bound "self" = .ok input →
    bound.int "dim" = .ok dim → resolveAxis input.sizes.length dim = .ok axis →
      bound.optInt "start" = .ok start → bound.optInt "end" = .ok stop →
        bound.int "step" = .ok step →
          let span := signed (sizeAt input.sizes axis)
          RangeFits (clampedBound span (start.getD 0)) (clampedBound span (stop.getD span)) step

/-- **A range of positions follows its rule**, if it fits. -/
theorem sliceOf_alike {bound : TensorArgs} (hrange : RangeArgsFit bound) :
    Alike SingleOf (Builtin.sliced (bound.map RealTensor.sizes)) (sliceOf bound) := by
  unfold sliceOf Builtin.sliced
  apply (alike_floats "self" bound).and_eq_ok.bind
  rintro _ input ⟨rfl, hinput⟩
  -- The operator reads its arguments where it needs them, so that they are told apart first.
  rw [BoundArgs.int_map, BoundArgs.optInt_map, BoundArgs.optInt_map, BoundArgs.int_map]
  by_cases hscalar : input.sizes = []
  · have hempty : input.sizes.isEmpty = true := List.isEmpty_iff.mpr hscalar
    unfold Rule.slice
    simp only [hempty, if_true]
    exact alike_bind_error fun _ => alike_bind_error fun _ => alike_bind_error fun _ =>
      alike_bind_error fun _ => alike_error_error
  · have hempty : ¬ input.sizes.isEmpty = true := mt List.isEmpty_iff.mp hscalar
    rw [if_neg hempty]
    cases hdim : bound.int "dim" with
    | error e => exact alike_error_error
    | ok dim =>
      cases hstart : bound.optInt "start" with
      | error e =>
        exact alike_error_bind fun _ => alike_error_bind fun _ => alike_error_bind fun _ =>
          alike_error_bind fun _ => alike_error_error
      | ok start =>
        cases hstop : bound.optInt "end" with
        | error e =>
          exact alike_error_bind fun _ => alike_error_bind fun _ => alike_error_bind fun _ =>
            alike_error_bind fun _ => alike_error_bind fun _ => alike_error_error
        | ok stop =>
          cases hstep : bound.int "step" with
          | error e => exact alike_error_bind fun _ => alike_error_bind fun _ => alike_error_error
          | ok step =>
            refine slice_alike hscalar dim start stop step fun axis haxis => ?_
            exact hrange input dim axis start stop step hinput hdim haxis hstart hstop hstep

end OpShape.Operator
