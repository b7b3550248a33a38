/-
# `OpShape.Proofs.Operator.Coverage` — what the windows of a mean cover.

Counting places does more than give a size.  Where a window has been counted, its numbers have been
checked and no place starts behind the input; and a window reaches beyond its own padding, so that
none ends before the input either.  What a window covers is therefore never empty, neither of the
padded input nor of the input itself, and a mean that is divided by the number of what is covered is
not divided by zero.

That holds of the numbers themselves.  The operator computes with words, and nothing that is checked
keeps the product of two lengths among them: a window of 2³² by 2³² covers as many positions as there
are words, which it takes for none.
-/
import OpShape.Proofs.Operator.Pool
import OpShape.Proofs.Rule.Places

namespace OpShape.Operator

attribute [local irreducible] signed

variable {bound : TensorArgs}

/-! ## One dimension -/

/-- What is known of a window once its places along a dimension are counted. -/
structure WindowMotion.Placed (motion : WindowMotion) (size places : Nat) : Prop where
  kernel_pos : 0 < motion.kernel
  dilation_pos : 0 < motion.dilation
  padding_le : motion.padding ≤ motion.kernel / 2
  kernel_lt : motion.kernel < 2 ^ 63
  stride_lt : motion.stride < 2 ^ 63
  dilation_lt : motion.dilation < 2 ^ 63
  size_pos : 0 < size
  size_lt : size < 2 ^ 63
  /-- No place starts behind the dimension. -/
  start_lt : ∀ place < places, place * motion.stride < size + motion.padding
  /-- The first window ends less than a stride behind the padding. -/
  reach_lt : (motion.kernel - 1) * motion.dilation + 1 < size + 2 * motion.padding + motion.stride

/-- **A window whose places are counted is placed**: only windows that are admitted are counted, and
there is a first one. -/
theorem placed_of_count {axis : Rule.Axis} (h : Poolable axis) (hfits : AxisFits axis)
    {ceilMode : Bool} {size places : Nat} (hpos : 0 < size) (hlt : size < 2 ^ 63)
    (hcount : (motionOf axis).count ceilMode size = .ok places) :
    (motionOf axis).Placed size places := by
  rw [Rule.count_eq h hfits hlt, invalid, Checked.refuse, guarded_eq_ok] at hcount
  obtain ⟨hsome, hcount⟩ := hcount
  have hstart : ∀ place < places, place * axis.stride.toNat < size + axis.padding.toNat := by
    intro place hplace
    -- A place that is counted is admitted, and a window that is admitted starts in time.
    rw [← Except.ok.inj hcount, Int.lt_toNat, ← Rule.admits_iff_lt h] at hplace
    have hadmits := hplace.start_lt h
    rw [← Int.ofNat_lt]
    push_cast
    rwa [Int.toNat_of_nonneg (Int.le_of_lt h.stride_pos), Int.toNat_of_nonneg h.padding_nonneg]
  have hfirst : axis.Admits ceilMode size 0 :=
    (Rule.admits_iff_lt h ceilMode 0).mpr (Int.not_le.mp hsome)
  have hreach := hfirst.reach_lt h
  have hspan : (((axis.kernel.toNat - 1) * axis.dilation.toNat : Nat) : Int) + 1 = axis.span := by
    have hkernel := h.kernel_pos
    have hlast : ((axis.kernel.toNat - 1 : Nat) : Int) = axis.kernel - 1 := by omega
    rw [Int.natCast_mul, hlast, Int.toNat_of_nonneg (Int.le_of_lt h.dilation_pos), Int.mul_comm]
    rfl
  obtain ⟨hkernel, hstride, hdilation, hpadding, hhalf⟩ := h
  obtain ⟨hkernel_lt, hstride_lt, hdilation_lt, -⟩ := hfits
  unfold motionOf
  refine ⟨?_, ?_, ?_, ?_, ?_, ?_, hpos, hlt, hstart, ?_⟩ <;> dsimp only <;> omega

theorem WindowMotion.Placed.padding_lt {motion : WindowMotion} {size places : Nat}
    (h : motion.Placed size places) : motion.padding < motion.kernel := by
  have hkernel := h.kernel_pos
  have hhalf := h.padding_le
  omega

/-- What a window covers along a dimension: some of the input, and perhaps padding, but no more than
its own length. -/
structure Extent.Covers (extent : Extent) (kernel size : Nat) : Prop where
  start_nonneg : 0 ≤ extent.start
  start_lt_stop : extent.start < extent.stop
  stop_le : extent.stop ≤ size
  covered_pos : 1 ≤ extent.covered
  shown_le : extent.stop - extent.start ≤ extent.covered
  covered_le : extent.covered ≤ kernel

/-- **What a window covers is never empty**, with the padding or without it, if its end is a word
wherever in the dimension it starts. -/
theorem extent_covers {motion : WindowMotion} {size places place : Nat}
    (h : motion.Placed size places) (hword : size + motion.kernel ≤ 2 ^ 63)
    (hplace : place < places) : (motion.extent place size).Covers motion.kernel size := by
  have hstart : (place : Int) * motion.stride < size + motion.padding := by
    exact_mod_cast h.start_lt place hplace
  have hnonneg : 0 ≤ (place : Int) * motion.stride :=
    Int.mul_nonneg (Int.natCast_nonneg place) (Int.natCast_nonneg motion.stride)
  have hpadding := h.padding_lt
  obtain ⟨hkernel, -, hhalf, hkernel_lt, hstride, -, hsize, hsize_lt, -, -⟩ := h
  unfold WindowMotion.extent
  rw [signed_of_lt hkernel_lt, signed_of_lt hstride, signed_of_lt hsize_lt,
    signed_of_lt (Nat.lt_trans hpadding hkernel_lt)]
  -- Where the window starts is one number, whatever place and stride it comes from.
  generalize (place : Int) * motion.stride = start at hstart hnonneg
  -- Each number of the window is a word, so that it is what it is called.
  have hlength := @toWord_of_mem (min (start - motion.padding + motion.kernel)
    (size + motion.padding) - (start - motion.padding)) (by omega) (by omega)
  have hbegin := @toWord_of_mem (start - motion.padding) (by omega) (by omega)
  have hend := @toWord_of_mem (start - motion.padding + motion.kernel) (by omega) (by omega)
  have hlast := @toWord_of_mem (size + motion.padding) (by omega) (by omega)
  dsimp only
  rw [hbegin, hend, hlast, hlength]
  clear hbegin hend hlast hlength
  constructor <;> dsimp only <;> omega

/-! ## Planes -/

/-- A window over a stack of planes, and the rows and columns of places that it takes. -/
structure PlaneWindow.Placed (window : PlaneWindow) (sizes : Sizes) (planes : Planes)
    (rows columns : Nat) : Prop where
  stacked : Stacked sizes 0 planes
  down : window.down.Placed planes.height rows
  across : window.across.Placed planes.width columns

/-- The numbers of a window are checked along both axes, and are words. -/
def PlaneWindow.Valid (window : PlaneWindow) : Prop :=
  ∃ down across, Poolable down ∧ AxisFits down ∧ Poolable across ∧ AxisFits across ∧
    window.down = motionOf down ∧ window.across = motionOf across

/-- A window that lists of words give is valid. -/
theorem valid_of_ofLists {kernel stride padding dilation : List Int} {ceilMode : Bool}
    {window : PlaneWindow} (hkernel : ∀ value ∈ kernel, value < 2 ^ 63)
    (hstride : ∀ value ∈ stride, value < 2 ^ 63) (hpadding : ∀ value ∈ padding, value < 2 ^ 63)
    (hdilation : ∀ value ∈ dilation, value < 2 ^ 63)
    (h : PlaneWindow.ofLists kernel stride padding dilation ceilMode = .ok window) :
    window.Valid := by
  rw [ofLists_eq] at h
  obtain ⟨k, hk, h⟩ := bind_eq_ok.mp h
  obtain ⟨s, hs, h⟩ := bind_eq_ok.mp h
  obtain ⟨p, hp, h⟩ := bind_eq_ok.mp h
  obtain ⟨d, hd, h⟩ := bind_eq_ok.mp h
  obtain ⟨_, -, -, hkernel⟩ := (pair_alike hkernel "" _).of_right hk
  obtain ⟨_, -, -, hstride⟩ := (stride_alike hkernel hstride "" _).of_right hs
  obtain ⟨_, -, -, hpadding⟩ := (pair_alike hpadding "" _).of_right hp
  obtain ⟨_, -, -, hdilation⟩ := (pair_alike hdilation "" _).of_right hd
  obtain ⟨hdown, hacross, rfl⟩ := checkedWindow_eq_ok.mp h
  exact ⟨_, _, hdown, ⟨hkernel.1, hstride.1, hdilation.1, hpadding.1⟩, hacross,
    ⟨hkernel.2, hstride.2, hdilation.2, hpadding.2⟩, rfl, rfl⟩

/-- **A valid window is placed** by counting its places down and across a plane whose sizes are signed
words. -/
theorem PlaneWindow.Valid.placed {window : PlaneWindow} (h : window.Valid) {sizes : Sizes}
    {planes : Planes} {rows columns : Nat} (hheight : planes.height < 2 ^ 63)
    (hwidth : planes.width < 2 ^ 63) (hplanes : Planes.ofSizes sizes 0 = .ok planes)
    (hrows : window.down.count window.ceilMode planes.height = .ok rows)
    (hcolumns : window.across.count window.ceilMode planes.width = .ok columns) :
    window.Placed sizes planes rows columns := by
  obtain ⟨down, across, hdown, hdownFits, hacross, hacrossFits, hdownEq, hacrossEq⟩ := h
  have hstacked := stacked_of_eq hplanes
  obtain ⟨hheight_pos, hwidth_pos⟩ := hstacked.plane_pos
  rw [hdownEq] at hrows
  rw [hacrossEq] at hcolumns
  exact {
    stacked := hstacked
    down := hdownEq ▸ placed_of_count hdown hdownFits hheight_pos hheight hrows
    across := hacrossEq ▸ placed_of_count hacross hacrossFits hwidth_pos hwidth hcolumns }

/-- **`PlaneWindow.KeepsToWords window planes`** — where a window ends is a word wherever in the plane
it starts, and so is the number of positions that it covers. -/
structure PlaneWindow.KeepsToWords (window : PlaneWindow) (planes : Planes) : Prop where
  down : planes.height + window.down.kernel ≤ 2 ^ 63
  across : planes.width + window.across.kernel ≤ 2 ^ 63
  covered : window.down.kernel * window.across.kernel < 2 ^ 63

theorem PlaneWindow.Valid.kernel_pos {window : PlaneWindow} (h : window.Valid) :
    0 < window.down.kernel ∧ 0 < window.across.kernel := by
  obtain ⟨down, across, hdown, -, hacross, -, hdownEq, hacrossEq⟩ := h
  rw [hdownEq, hacrossEq]
  exact ⟨Int.lt_toNat.mpr hdown.kernel_pos, Int.lt_toNat.mpr hacross.kernel_pos⟩

/-! ## Divisors -/

/-- The product of two lengths is itself a word if that of their bounds is. -/
theorem toWord_mul {x y : Int} {k l : Nat} (hx : 1 ≤ x) (hy : 1 ≤ y) (hxk : x ≤ k) (hyl : y ≤ l)
    (hword : k * l < 2 ^ 63) : toWord (x * y) = x * y := by
  have hpos : 0 < x * y := Int.mul_pos hx hy
  have hle : x * y ≤ (k * l : Nat) := by
    rw [Int.natCast_mul]
    exact Int.mul_le_mul hxk hyl (by omega) (by omega)
  exact toWord_of_mem (by omega) (by omega)

section Divisors

variable {down across : Extent} {kernel kernel' height width : Nat}
  (hdown : down.Covers kernel height) (hacross : across.Covers kernel' width)
  (hword : kernel * kernel' < 2 ^ 63)

include hdown hacross hword

/-- A sum is divided by the number of all positions that a window covers, at least one. -/
theorem meanDivisor_covered :
    meanDivisor none true down across = down.covered * across.covered ∧
      1 ≤ meanDivisor none true down across := by
  have hproduct : meanDivisor none true down across = down.covered * across.covered :=
    toWord_mul hdown.covered_pos hacross.covered_pos hdown.covered_le hacross.covered_le hword
  rw [hproduct]
  exact ⟨rfl, Int.mul_pos hdown.covered_pos hacross.covered_pos⟩

/-- A sum is divided by the number of the positions that a window shows, at least one. -/
theorem meanDivisor_shown :
    meanDivisor none false down across =
        (down.stop - down.start) * (across.stop - across.start) ∧
      1 ≤ meanDivisor none false down across := by
  have hrows : 1 ≤ down.stop - down.start := Int.sub_pos_of_lt hdown.start_lt_stop
  have hcolumns : 1 ≤ across.stop - across.start := Int.sub_pos_of_lt hacross.start_lt_stop
  have hproduct : meanDivisor none false down across =
      (down.stop - down.start) * (across.stop - across.start) :=
    toWord_mul hrows hcolumns (Int.le_trans hdown.shown_le hdown.covered_le)
      (Int.le_trans hacross.shown_le hacross.covered_le) hword
  rw [hproduct]
  exact ⟨rfl, Int.mul_pos hrows hcolumns⟩

/-- A sum is not divided by zero unless a call asks for that. -/
theorem meanDivisor_ne_zero {fixed : Option Int} (hfixed : fixed ≠ some 0) (withPadding : Bool) :
    meanDivisor fixed withPadding down across ≠ 0 := by
  cases fixed with
  | some divisor => exact fun hzero => hfixed (congrArg some hzero)
  | none =>
    cases withPadding with
    | true => exact Int.ne_of_gt (meanDivisor_covered hdown hacross hword).2
    | false => exact Int.ne_of_gt (meanDivisor_shown hdown hacross hword).2

end Divisors

/-! ## Means -/

/-- The window of a call for means. -/
def meanWindowArg (args : TensorArgs) : OpResult PlaneWindow := do
  let kernel ← args.ints "kernel_size"
  let stride ← args.ints "stride"
  let padding ← args.ints "padding"
  PlaneWindow.ofLists kernel stride padding [1] (← args.bool "ceil_mode")

/-- What a call for the means of windows is read as. -/
structure MeanCall (bound : TensorArgs) (input : Tensor Float32) (window : PlaneWindow)
    (withPadding : Bool) (fixed : Option Int) : Prop where
  input_eq : floatArg bound "self" = .ok input
  window_eq : meanWindowArg bound = .ok window
  withPadding_eq : bound.bool "count_include_pad" = .ok withPadding
  fixed_eq : bound.optInt "divisor_override" = .ok fixed
  fixed_ne : fixed ≠ some 0

theorem of_avgPoolOf {returned : Returned RealTensor} (h : avgPoolOf bound = .ok returned) :
    ∃ input window withPadding fixed means, MeanCall bound input window withPadding fixed ∧
      avgPool input window withPadding fixed = .ok means ∧ returned = .one (.float means) := by
  obtain ⟨input, hinput, h⟩ := bind_eq_ok.mp h
  obtain ⟨kernel, hkernel, h⟩ := bind_eq_ok.mp h
  obtain ⟨stride, hstride, h⟩ := bind_eq_ok.mp h
  obtain ⟨padding, hpadding, h⟩ := bind_eq_ok.mp h
  obtain ⟨ceilMode, hceilMode, h⟩ := bind_eq_ok.mp h
  obtain ⟨window, hwindow, h⟩ := bind_eq_ok.mp h
  obtain ⟨withPadding, hwithPadding, h⟩ := bind_eq_ok.mp h
  obtain ⟨fixed, hfixed, h⟩ := bind_eq_ok.mp h
  rw [invalid, Checked.refuse, guarded_eq_ok] at h
  obtain ⟨hzero, h⟩ := h
  obtain ⟨means, hmeans, h⟩ := bind_eq_ok.mp h
  have hlists : meanWindowArg bound = .ok window := by
    unfold meanWindowArg
    rw [hkernel, ok_bind, hstride, ok_bind, hpadding, ok_bind, hceilMode, ok_bind, hwindow]
  have hcall : MeanCall bound input window withPadding fixed := {
    input_eq := hinput
    window_eq := hlists
    withPadding_eq := lift_eq_ok.mp hwithPadding
    fixed_eq := lift_eq_ok.mp hfixed
    fixed_ne := hzero }
  exact ⟨input, window, withPadding, fixed, means, hcall, hmeans, (Except.ok.inj h).symm⟩

theorem valid_of_meanWindowArg {limit : Nat} (hfits : bound.Fits limit) {window : PlaneWindow}
    (h : meanWindowArg bound = .ok window) : window.Valid := by
  obtain ⟨kernel, hkernel, h⟩ := bind_eq_ok.mp h
  obtain ⟨stride, hstride, h⟩ := bind_eq_ok.mp h
  obtain ⟨padding, hpadding, h⟩ := bind_eq_ok.mp h
  obtain ⟨ceilMode, -, h⟩ := bind_eq_ok.mp h
  exact valid_of_ofLists (hfits.ints (lift_eq_ok.mp hkernel)) (hfits.ints (lift_eq_ok.mp hstride))
    (hfits.ints (lift_eq_ok.mp hpadding)) (by decide) h

/-- **Means are not divided by zero**, as long as a window keeps to words.  At each place of a call
that is accepted, what the window covers is then not empty in either direction and lies inside the
plane; both numbers that a sum may be divided by, that of all positions that the window covers and
that of those inside the plane, are what they are called and at least one; and the mean is the sum of
the elements inside the plane, divided by one of the two or by the divisor of the call, which is not
zero either. -/
theorem avgPool_divides_by_windows (hfits : bound.Fits (2 ^ 64)) {returned : Returned RealTensor}
    (h : avgPoolOf bound = .ok returned) :
    ∃ input window withPadding fixed planes rows columns means,
      MeanCall bound input window withPadding fixed ∧ Stacked input.sizes 0 planes ∧
      returned = .one (.float means) ∧ means.sizes = planes.stack ++ [rows, columns] ∧
      (window.KeepsToWords planes → window.Placed input.sizes planes rows columns ∧
        ∀ offset (hoffset : offset < means.data.size),
          let down := window.down.extent (offset / columns % rows) planes.height
          let across := window.across.extent (offset % columns) planes.width
          down.Covers window.down.kernel planes.height ∧
            across.Covers window.across.kernel planes.width ∧
            (meanDivisor none true down across = down.covered * across.covered ∧
              1 ≤ meanDivisor none true down across) ∧
            (meanDivisor none false down across =
                (down.stop - down.start) * (across.stop - across.start) ∧
              1 ≤ meanDivisor none false down across) ∧
            meanDivisor fixed withPadding down across ≠ 0 ∧
            ∃ sum, planeSum planes input.data (offset / (rows * columns)) down.positions
                across.positions = .ok sum ∧
              means.data[offset] =
                sum / Float32.ofInt (meanDivisor fixed withPadding down across)) := by
  obtain ⟨input, window, withPadding, fixed, means, hcall, hmeans, hreturned⟩ := of_avgPoolOf h
  obtain ⟨planes, hplanes, hmeans⟩ := bind_eq_ok.mp hmeans
  obtain ⟨rows, hrows, hmeans⟩ := bind_eq_ok.mp hmeans
  obtain ⟨columns, hcolumns, hmeans⟩ := bind_eq_ok.mp hmeans
  obtain ⟨hsizes, hentries⟩ := build_eq_ok.mp hmeans
  refine ⟨input, window, withPadding, fixed, planes, rows, columns, means, hcall,
    stacked_of_eq hplanes, hreturned, hsizes, fun hwords => ?_⟩
  have hvalid := valid_of_meanWindowArg hfits hcall.window_eq
  obtain ⟨hkernel, hkernel'⟩ := hvalid.kernel_pos
  have hplaced : window.Placed input.sizes planes rows columns :=
    hvalid.placed (Nat.lt_of_lt_of_le (Nat.lt_add_of_pos_right hkernel) hwords.down)
      (Nat.lt_of_lt_of_le (Nat.lt_add_of_pos_right hkernel') hwords.across) hplanes hrows hcolumns
  refine ⟨hplaced, ?_⟩
  intro offset hoffset down across
  have hinside : offset < elementCount (planes.stack ++ [rows, columns]) := by
    rwa [means.size_data, hsizes] at hoffset
  obtain ⟨-, hrow, hcolumn⟩ := plane_row_column_lt hinside
  have hdown : down.Covers window.down.kernel planes.height :=
    extent_covers hplaced.down hwords.down hrow
  have hacross : across.Covers window.across.kernel planes.width :=
    extent_covers hplaced.across hwords.across hcolumn
  obtain ⟨sum, hsum, hmean⟩ := bind_eq_ok.mp (hentries offset hoffset)
  exact ⟨hdown, hacross, meanDivisor_covered hdown hacross hwords.covered,
    meanDivisor_shown hdown hacross hwords.covered,
    meanDivisor_ne_zero hdown hacross hwords.covered hcall.fixed_ne withPadding, sum, hsum,
    (Except.ok.inj hmean).symm⟩

/-- Rounding up, the last windows lie partly behind a plane of three rows and four columns. -/
theorem avgPool_divides_by_windows_rounded_up :
    let call : TensorArgs := { values := [
      ("self", .tensor (.float (Tensor.full [1, 3, 4] 1))),
      ("kernel_size", .list [.int 2, .int 3]), ("stride", .list [.int 2]),
      ("padding", .list [.int 1]), ("ceil_mode", .bool true), ("count_include_pad", .bool true),
      ("divisor_override", .none)] }
    let down : WindowMotion := { kernel := 2, stride := 2, padding := 1, dilation := 1 }
    let across : WindowMotion := { kernel := 3, stride := 2, padding := 1, dilation := 1 }
    call.Fits (2 ^ 64) ∧ ∃ means, avgPoolOf call = .ok (.one (.float means)) ∧
      means.sizes = [1, 2, 3] ∧ ∀ offset < means.data.size,
        (down.extent (offset / 3 % 2) 3).Covers 2 3 ∧ (across.extent (offset % 3) 4).Covers 3 4 ∧
          1 ≤ meanDivisor none true (down.extent (offset / 3 % 2) 3)
            (across.extent (offset % 3) 4) := by
  intro call down across
  have hfits : call.Fits (2 ^ 64) :=
    .cons (.ofSizes [1, 3, 4] rfl (by decide)) (.cons (.ints [2, 3] (by decide)) (.cons
      (.ints [2] (by decide)) (.cons (.ints [1] (by decide)) (.cons .bool (.cons .bool (.cons
        .none .nil))))))
  have hrule : Builtin.avgPool2d (call.map RealTensor.sizes) = .ok [1, 2, 3] := by
    decide +kernel
  have halike := avgPoolOf_alike hfits rfl rfl
  rw [hrule] at halike
  obtain ⟨_, hanswer, pooled, rfl, hpooled⟩ := halike.ok
  obtain ⟨input, window, withPadding, fixed, planes, rows, columns, means, hcall, hstacked,
    hreturned, hsizes, hplaces⟩ := avgPool_divides_by_windows hfits hanswer
  obtain rfl : pooled = means := by
    cases hreturned
    rfl
  obtain rfl : Tensor.full [1, 3, 4] 1 = input := Except.ok.inj hcall.input_eq
  obtain rfl : { down, across, ceilMode := true } = window := Except.ok.inj hcall.window_eq
  obtain rfl : { stack := [1], height := 3, width := 4 } = planes :=
    Except.ok.inj hstacked.planes_eq
  obtain ⟨rfl, rfl⟩ : 2 = rows ∧ 3 = columns := by simpa [hpooled] using hsizes
  obtain ⟨-, hplaces⟩ := hplaces ⟨by decide, by decide, by decide⟩
  refine ⟨hfits, pooled, hanswer, hpooled, fun offset hoffset => ?_⟩
  obtain ⟨hdown, hacross, hcovered, -⟩ := hplaces offset hoffset
  exact ⟨hdown, hacross, hcovered.2⟩

/-- **The mean of one pixel is divided by zero** where the window covers 2³² by 2³² positions, most of
them padding, and all of them count. -/
theorem avgPool_divides_by_zero :
    let pixel : TensorArgs := { values := [
      ("self", .tensor (.float (Tensor.full [1, 1, 1] 1))),
      ("kernel_size", .list [.int (2 ^ 32)]), ("stride", .list []),
      ("padding", .list [.int (2 ^ 31)]), ("ceil_mode", .bool false),
      ("count_include_pad", .bool true), ("divisor_override", .none)] }
    let motion : WindowMotion :=
      { kernel := 2 ^ 32, stride := 2 ^ 32, padding := 2 ^ 31, dilation := 1 }
    pixel.Fits (2 ^ 63) ∧
      meanWindowArg pixel = .ok { down := motion, across := motion, ceilMode := false } ∧
      (∃ means, avgPoolOf pixel = .ok (.one (.float means)) ∧ means.sizes = [1, 1, 1]) ∧
      (motion.extent 0 1).covered = 2 ^ 32 ∧
      meanDivisor none true (motion.extent 0 1) (motion.extent 0 1) = 0 := by
  intro pixel motion
  have hfits : pixel.Fits (2 ^ 63) :=
    .cons (.ofSizes [1, 1, 1] rfl (by decide)) (.cons (.ints [2 ^ 32] (by decide)) (.cons
      (.ints [] (by decide)) (.cons (.ints [2 ^ 31] (by decide)) (.cons .bool (.cons .bool (.cons
        .none .nil))))))
  have hrule : Builtin.avgPool2d (pixel.map RealTensor.sizes) = .ok [1, 1, 1] := by
    decide +kernel
  have halike := avgPoolOf_alike (hfits.mono (by decide : 2 ^ 63 ≤ 2 ^ 64)) rfl rfl
  rw [hrule] at halike
  obtain ⟨_, hanswer, means, rfl, hmeans⟩ := halike.ok
  exact ⟨hfits, rfl, ⟨means, hanswer, hmeans⟩, by decide +kernel, by decide +kernel⟩

end OpShape.Operator
