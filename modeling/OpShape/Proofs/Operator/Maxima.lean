/-
# `OpShape.Proofs.Operator.Maxima` — what the windows of a maximum show.

The entries of a window lie as far apart as its dilation, so that a window that covers some of a
dimension need not show any of it: between two of its entries there is room for a dimension that is
shorter than the dilation.  Padding puts the first of the two before the dimension.  This is the one
way in which a window shows nothing, and the search for the greatest element then ends with what it
starts from; in all other cases it ends with an element that the window shows, unless none of those
is greater than negative infinity.

Positions are computed as words.  That makes no difference: an entry that lies inside the dimension
is found there, and where a window steps over, no entry lies so far behind that its word would come
round to the dimension again.
-/
import Mathlib.Data.List.ProdSigma
import OpShape.Proofs.Operator.Coverage

namespace OpShape.Operator

attribute [local irreducible] signed wrapInt

variable {α β : Type} {bound : TensorArgs}

/-! ## One dimension -/

/-- Where an entry of a window lies at a place, counted from the start of the padding. -/
def WindowMotion.entry (motion : WindowMotion) (place k : Nat) : Nat :=
  place * motion.stride + k * motion.dilation

/-- **A window steps over a dimension** if two neighbouring entries lie before and behind it. -/
def WindowMotion.StepsOver (motion : WindowMotion) (place size : Nat) : Prop :=
  ∃ k, k + 1 < motion.kernel ∧ motion.entry place k < motion.padding ∧
    size + motion.padding ≤ motion.entry place (k + 1)

section Positions

variable {motion : WindowMotion} {size places place : Nat}

theorem entry_mono : Monotone (motion.entry place) :=
  fun _ _ hkl => Nat.add_le_add_left (Nat.mul_le_mul_right motion.dilation hkl) _

theorem entry_succ (k : Nat) : motion.entry place (k + 1) = motion.entry place k + motion.dilation := by
  unfold WindowMotion.entry
  rw [Nat.succ_mul, Nat.add_assoc]

/-- It takes a wide dilation and some padding to step over a dimension. -/
theorem WindowMotion.StepsOver.bounds (h : motion.StepsOver place size) :
    size < motion.dilation ∧ 0 < motion.padding := by
  obtain ⟨k, -, hbefore, hbehind⟩ := h
  rw [entry_succ] at hbehind
  omega

/-- The first entry of a window does not lie behind the dimension. -/
theorem first_entry_lt (h : motion.Placed size places) (hplace : place < places) :
    motion.entry place 0 < size + motion.padding := by
  unfold WindowMotion.entry
  rw [Nat.zero_mul, Nat.add_zero]
  exact h.start_lt place hplace

/-- The last entry of a window does not lie before the dimension. -/
theorem padding_le_last_entry (h : motion.Placed size places) :
    motion.padding ≤ motion.entry place (motion.kernel - 1) := by
  have hlast : (motion.kernel - 1) * 1 ≤ (motion.kernel - 1) * motion.dilation :=
    Nat.mul_le_mul_left _ h.dilation_pos
  have hpadding := h.padding_lt
  unfold WindowMotion.entry
  omega

/-- The positions that a window shows are the words of its entries that lie inside the dimension. -/
theorem mem_positions (h : motion.Placed size places) {position : Nat} :
    position ∈ motion.positions place size ↔
      position < size ∧ ∃ k < motion.kernel,
        toWord (motion.entry place k - motion.padding) = position := by
  have hpadding := Nat.lt_trans h.padding_lt h.kernel_lt
  have hentry : ∀ k, place * motion.stride + k * motion.dilation = motion.entry place k :=
    fun _ => rfl
  unfold WindowMotion.positions
  simp only [List.mem_filterMap, List.mem_range, signed_of_lt h.size_lt, signed_of_lt hpadding,
    toWord_signed_sub, hentry]
  constructor
  · rintro ⟨k, hk, hposition⟩
    split at hposition
    · cases hposition
    · next hinside =>
      rw [← Option.some.inj hposition]
      exact ⟨by omega, k, hk, by omega⟩
  · rintro ⟨hsize, k, hk, hposition⟩
    refine ⟨k, hk, ?_⟩
    rw [hposition, if_neg (by omega), Int.toNat_natCast]

/-- If a window shows nothing, an entry that does not lie behind the dimension lies before it. -/
theorem entry_lt_of_positions_eq_nil (h : motion.Placed size places)
    (hnone : motion.positions place size = []) {k : Nat} (hk : k < motion.kernel)
    (hlt : motion.entry place k < size + motion.padding) :
    motion.entry place k < motion.padding := by
  by_contra hge
  have hsize := h.size_lt
  -- An entry inside the dimension is a word, which is found where it is.
  have hword : toWord (motion.entry place k - motion.padding) =
      (motion.entry place k - motion.padding : Nat) := by
    rw [toWord_of_mem (by omega) (by omega)]
    omega
  have hshown : motion.entry place k - motion.padding ∈ motion.positions place size :=
    (mem_positions h).mpr ⟨by omega, k, hk, hword⟩
  rw [hnone] at hshown
  cases hshown

theorem stepsOver_of_positions_eq_nil (h : motion.Placed size places) (hplace : place < places)
    (hnone : motion.positions place size = []) : motion.StepsOver place size := by
  have hlast : size + motion.padding ≤ motion.entry place (motion.kernel - 1) := by
    by_contra hlt
    have hbefore := entry_lt_of_positions_eq_nil h hnone
      (Nat.sub_one_lt_of_lt h.kernel_pos) (Nat.not_le.mp hlt)
    exact Nat.not_le.mpr hbefore (padding_le_last_entry h)
  -- Somewhere between the first entry and the last one the entries begin to lie behind.
  obtain ⟨k, hk, hnext⟩ := Nat.exists_not_and_succ_of_not_zero_of_exists
    (p := fun k => size + motion.padding ≤ motion.entry place k)
    (Nat.not_le.mpr (first_entry_lt h hplace)) ⟨_, hlast⟩
  have hinside : k < motion.kernel - 1 :=
    entry_mono.reflect_lt (Nat.lt_of_lt_of_le (Nat.not_le.mp hk) hlast)
  exact ⟨k, by omega,
    entry_lt_of_positions_eq_nil h hnone (by omega) (Nat.not_le.mp hk), hnext⟩

/-- The sum of two numbers that are not zero is at most one more than their product. -/
theorem add_le_mul_add_one {a b : Nat} (ha : 0 < a) (hb : 0 < b) : a + b ≤ a * b + 1 := by
  obtain ⟨a, rfl⟩ := Nat.exists_eq_add_one.mpr ha
  obtain ⟨b, rfl⟩ := Nat.exists_eq_add_one.mpr hb
  rw [Nat.succ_mul_succ]
  omega

/-- A window that steps over a dimension is no longer than there are words. -/
theorem length_le_of_stepsOver (h : motion.Placed size places) (hover : motion.StepsOver place size) :
    (motion.kernel - 1) * motion.dilation ≤ 2 ^ 64 := by
  obtain ⟨hwide, -⟩ := hover.bounds
  obtain ⟨k, hk, -, -⟩ := hover
  have hreach := h.reach_lt
  have hhalf := h.padding_le
  have hstride := h.stride_lt
  have hdilation := h.dilation_lt
  have hsize := h.size_pos
  obtain ⟨gaps, hgaps⟩ : ∃ gaps, motion.kernel - 1 = gaps + 1 := ⟨motion.kernel - 2, by omega⟩
  obtain ⟨skipped, hskipped⟩ : ∃ skipped, motion.dilation = skipped + 1 :=
    ⟨motion.dilation - 1, by omega⟩
  rw [hgaps, hskipped, Nat.succ_mul_succ] at hreach
  rw [hgaps, hskipped, Nat.succ_mul_succ]
  -- What the entries skip beyond the first gap is less than a stride.
  have hless : gaps * skipped < motion.stride := by omega
  obtain hnone | hsome := Nat.eq_zero_or_pos gaps
  · rw [hnone]
    omega
  · have hsum := add_le_mul_add_one hsome (by omega : 0 < skipped)
    omega

/-- **No entry comes round** of a window that steps over a dimension: its entries lie more than the
dimension apart, so that there are few of them, and a window is counted only if it does not end far
behind. -/
theorem entry_lt_of_stepsOver (h : motion.Placed size places) (hover : motion.StepsOver place size)
    {l : Nat} (hl : l < motion.kernel) : motion.entry place l < 2 ^ 64 + motion.padding := by
  have hlength := length_le_of_stepsOver h hover
  obtain ⟨k, -, hbefore, -⟩ := hover
  have hlast : motion.entry place l ≤ motion.entry place (motion.kernel - 1) :=
    entry_mono (Nat.le_sub_one_of_lt hl)
  unfold WindowMotion.entry at *
  omega

/-- The entries up to one of two neighbours lie before the dimension, the others behind it. -/
theorem positions_eq_nil_of_stepsOver (h : motion.Placed size places)
    (hover : motion.StepsOver place size) : motion.positions place size = [] := by
  have hbound := @entry_lt_of_stepsOver motion size places place h hover
  obtain ⟨k, -, hbefore, hbehind⟩ := hover
  have hpadding := Nat.lt_trans h.padding_lt h.kernel_lt
  refine List.eq_nil_iff_forall_not_mem.mpr fun position hposition => ?_
  obtain ⟨hsize, l, hl, hentry⟩ := (mem_positions h).mp hposition
  have hfar := hbound hl
  rcases Nat.lt_or_ge k l with hkl | hlk
  · have hstep : motion.entry place (k + 1) ≤ motion.entry place l := entry_mono hkl
    rcases Int.lt_or_le (motion.entry place l - motion.padding) (2 ^ 63) with hword | hbeyond
    · rw [toWord_of_mem (by omega) hword] at hentry
      omega
    · rw [toWord_of_ge hbeyond (by omega)] at hentry
      omega
  · have hstep : motion.entry place l ≤ motion.entry place k := entry_mono hlk
    rw [toWord_of_mem (by omega) (by omega)] at hentry
    omega

/-- **A window shows nothing exactly if it steps over the dimension**: its first entry does not lie
behind, and its last one not before. -/
theorem positions_eq_nil_iff (h : motion.Placed size places) (hplace : place < places) :
    motion.positions place size = [] ↔ motion.StepsOver place size :=
  ⟨stepsOver_of_positions_eq_nil h hplace, positions_eq_nil_of_stepsOver h⟩

end Positions

/-! ## Planes -/

/-- The positions of a plane that a window shows at a place. -/
def PlaneWindow.shown (window : PlaneWindow) (planes : Planes) (row column : Nat) :
    List (Nat × Nat) :=
  window.down.positions row planes.height ×ˢ window.across.positions column planes.width

/-- A window shows nothing of a plane exactly if it steps over one of its dimensions. -/
theorem shown_eq_nil_iff {window : PlaneWindow} {sizes : Sizes} {planes : Planes}
    {rows columns row column : Nat} (h : window.Placed sizes planes rows columns)
    (hrow : row < rows) (hcolumn : column < columns) :
    window.shown planes row column = [] ↔
      window.down.StepsOver row planes.height ∨ window.across.StepsOver column planes.width := by
  unfold PlaneWindow.shown
  rw [← positions_eq_nil_iff h.down hrow, ← positions_eq_nil_iff h.across hcolumn]
  generalize window.down.positions row planes.height = down
  generalize window.across.positions column planes.width = across
  cases down <;> cases across <;> simp [SProd.sprod, List.product]

/-! ## The search for the greatest element -/

/-- Does an entry take the place of the best one so far? -/
def Beats (best entry : Float32 × Nat) : Prop :=
  (entry.1 > best.1 || entry.1.isNaN) = true

/-- **The search for the greatest entry** ends with an entry, unless none beats what it starts
from. -/
theorem foldl_takeGreater (entries : List (Float32 × Nat)) (start : Float32 × Nat) :
    entries.foldl takeGreater start ∈ entries ∨
      (entries.foldl takeGreater start = start ∧ ∀ entry ∈ entries, ¬ Beats start entry) := by
  induction entries generalizing start with
  | nil => exact .inr ⟨rfl, by simp⟩
  | cons entry entries ih =>
    rw [List.foldl_cons]
    by_cases hbeats : Beats start entry
    · rw [show takeGreater start entry = entry from if_pos hbeats]
      rcases ih entry with hmem | ⟨hlast, -⟩
      · exact .inl (List.mem_cons_of_mem _ hmem)
      · rw [hlast]
        exact .inl List.mem_cons_self
    · rw [show takeGreater start entry = start from if_neg hbeats]
      rcases ih start with hmem | ⟨hlast, hnone⟩
      · exact .inl (List.mem_cons_of_mem _ hmem)
      · exact .inr ⟨hlast, List.forall_mem_cons.mpr ⟨hbeats, hnone⟩⟩

/-- An entry is the element of a plane at a place, with its position in the plane. -/
def Planes.Holds (planes : Planes) (data : Array Float32) (plane : Nat) (place : Nat × Nat)
    (entry : Float32 × Nat) : Prop :=
  planes.at? data plane place.1 place.2 = .ok entry.1 ∧
    entry.2 = place.1 * planes.width + place.2

/-- **What is answered for a window**: an element that it shows and its position, or negative
infinity and zero if no element that it shows is greater than that. -/
def Planes.Answer (planes : Planes) (data : Array Float32) (plane : Nat) (shown : List (Nat × Nat))
    (best : Float32 × Nat) : Prop :=
  (∃ place ∈ shown, planes.Holds data plane place best) ∨
    (best = (-Single.infinity, 0) ∧ ∀ place ∈ shown, ∃ entry,
      planes.Holds data plane place entry ∧ ¬ Beats (-Single.infinity, 0) entry)

theorem of_windowMax {planes : Planes} {data : Array Float32} {window : PlaneWindow}
    {plane row column : Nat} {best : Float32 × Nat}
    (h : windowMax planes data window plane row column = .ok best) :
    planes.Answer data plane (window.shown planes row column) best := by
  obtain ⟨entries, hentries, h⟩ := bind_eq_ok.mp h
  obtain ⟨hread, hmet⟩ := of_rectangle hentries
  have hholds : ∀ y x entry, (do .ok (← planes.at? data plane y x, y * planes.width + x)) =
      (.ok entry : OpResult (Float32 × Nat)) ↔ planes.Holds data plane (y, x) entry := by
    intro y x entry
    unfold Planes.Holds
    rw [bind_eq_ok]
    constructor
    · rintro ⟨value, hvalue, hentry⟩
      rw [← Except.ok.inj hentry]
      exact ⟨hvalue, rfl⟩
    · rintro ⟨hvalue, hposition⟩
      exact ⟨entry.1, hvalue, by rw [← hposition]⟩
  simp only [hholds] at hread hmet
  rw [← Except.ok.inj h]
  unfold Planes.Answer PlaneWindow.shown
  rcases foldl_takeGreater entries.flatten (-Single.infinity, 0) with hmem | ⟨hstart, hnone⟩
  · obtain ⟨y, hy, x, hx, hbest⟩ := hread _ hmem
    exact .inl ⟨(y, x), List.pair_mem_product.mpr ⟨hy, hx⟩, hbest⟩
  · refine .inr ⟨hstart, ?_⟩
    rintro ⟨y, x⟩ hshown
    obtain ⟨hy, hx⟩ := List.pair_mem_product.mp hshown
    obtain ⟨entry, hentry, hentryHolds⟩ := hmet y hy x hx
    exact ⟨entry, hentryHolds, hnone entry hentry⟩

/-! ## Maxima -/

/-- A call for the greatest element of each window is answered place by place. -/
theorem maxPool_eq_ok {input : Tensor Float32} {window : PlaneWindow}
    {pooled : Tensor Float32 × Tensor Int} :
    maxPool input window = .ok pooled ↔
      ∃ planes rows columns best, Planes.ofSizes input.sizes 0 = .ok planes ∧
        window.down.count window.ceilMode planes.height = .ok rows ∧
        window.across.count window.ceilMode planes.width = .ok columns ∧
        planes.build rows columns (windowMax planes input.data window) = .ok best ∧
        pooled = (best.map Prod.fst, best.map fun entry => wrapInt entry.2) := by
  unfold maxPool
  simp only [bind_eq_ok, Except.ok.injEq, exists_and_left, @eq_comm _ pooled]

theorem valid_of_windowArg {limit : Nat} (hfits : bound.Fits limit) {window : PlaneWindow}
    (h : windowArg bound = .ok window) : window.Valid := by
  obtain ⟨kernel, hkernel, h⟩ := bind_eq_ok.mp h
  obtain ⟨stride, hstride, h⟩ := bind_eq_ok.mp h
  obtain ⟨padding, hpadding, h⟩ := bind_eq_ok.mp h
  obtain ⟨dilation, hdilation, h⟩ := bind_eq_ok.mp h
  obtain ⟨ceilMode, -, h⟩ := bind_eq_ok.mp h
  exact valid_of_ofLists (hfits.ints (lift_eq_ok.mp hkernel)) (hfits.ints (lift_eq_ok.mp hstride))
    (hfits.ints (lift_eq_ok.mp hpadding)) (hfits.ints (lift_eq_ok.mp hdilation)) h

/-- A plane of a tensor is no longer in either direction than there are elements. -/
theorem plane_le_data {input : Tensor Float32} {planes : Planes} (h : Stacked input.sizes 0 planes)
    (hsome : 0 < elementCount planes.stack) :
    planes.height ≤ input.data.size ∧ planes.width ≤ input.data.size := by
  obtain ⟨hheight, hwidth⟩ := h.plane_pos
  have hplane : planes.height * planes.width ≤ input.data.size := by
    rw [h.size_data, elementCount_planes]
    exact Nat.le_mul_of_pos_left _ hsome
  exact ⟨(Nat.le_mul_of_pos_right _ hwidth).trans hplane,
    (Nat.le_mul_of_pos_left _ hheight).trans hplane⟩

/-- **The windows of a maximum show an element of the plane, unless they step over it.**  For
whatever call is accepted, its tensor having fewer than 2⁶³ elements, and at each of its places, a
window shows nothing exactly if it steps over the plane in one of the two directions; it never does
if in each direction the dilation is no wider than the plane, or there is no padding.  The answer is
an element that the window shows, with its position in the plane as a word of thirty-two bits, or
negative infinity at position zero if no element that it shows is greater than that. -/
theorem maxPool_shows_unless_steps_over (hfits : bound.Fits (2 ^ 64))
    (hmemory : ∀ input, floatArg bound "self" = .ok input → input.data.size < 2 ^ 63)
    {returned : Returned RealTensor} (h : maxPoolOf bound = .ok returned) :
    ∃ input window planes rows columns values positions,
      floatArg bound "self" = .ok input ∧ windowArg bound = .ok window ∧
      Stacked input.sizes 0 planes ∧
      window.down.count window.ceilMode planes.height = .ok rows ∧
      window.across.count window.ceilMode planes.width = .ok columns ∧
      returned = .one (.float values) ∧
      maxPoolWithPositionsOf bound = .ok (.many [.float values, .int positions]) ∧
      values.sizes = planes.stack ++ [rows, columns] ∧ positions.sizes = values.sizes ∧
      ∀ offset < elementCount values.sizes,
        let row := offset / columns % rows
        let column := offset % columns
        let shown := window.shown planes row column
        (shown = [] ↔
          window.down.StepsOver row planes.height ∨ window.across.StepsOver column planes.width) ∧
        ((window.down.dilation ≤ planes.height ∨ window.down.padding = 0) →
          (window.across.dilation ≤ planes.width ∨ window.across.padding = 0) → shown ≠ []) ∧
        ∃ best, values.data[offset]? = some best.1 ∧
          positions.data[offset]? = some (wrapInt best.2) ∧
          planes.Answer input.data (offset / (rows * columns)) shown best := by
  rw [maxPoolOf_eq] at h
  obtain ⟨pooled, hpooled, h⟩ := bind_eq_ok.mp h
  obtain ⟨input, hinput, hcall⟩ := bind_eq_ok.mp hpooled
  obtain ⟨window, hwindow, hcall⟩ := bind_eq_ok.mp hcall
  obtain ⟨planes, rows, columns, best, hplanes, hrows, hcolumns, hbest, rfl⟩ :=
    maxPool_eq_ok.mp hcall
  have hstacked := stacked_of_eq hplanes
  obtain ⟨hsizes, hentries⟩ := build_eq_ok.mp hbest
  refine ⟨input, window, planes, rows, columns, best.map Prod.fst,
    best.map fun entry => wrapInt entry.2, hinput, hwindow, hstacked, hrows, hcolumns,
    (Except.ok.inj h).symm, ?_, hsizes, rfl, ?_⟩
  · rw [maxPoolWithPositionsOf_eq, hpooled]
    rfl
  · intro offset hoffset row column shown
    rw [Tensor.sizes_map] at hoffset
    have hdata : offset < best.data.size := by rwa [best.size_data]
    obtain ⟨hplane, hrow, hcolumn⟩ := plane_row_column_lt (hsizes ▸ hoffset)
    -- There is a place, and with it a plane whose elements are all there.
    obtain ⟨hheight, hwidth⟩ := plane_le_data hstacked (Nat.zero_lt_of_lt hplane)
    have hplaced : window.Placed input.sizes planes rows columns :=
      (valid_of_windowArg hfits hwindow).placed (Nat.lt_of_le_of_lt hheight (hmemory input hinput))
        (Nat.lt_of_le_of_lt hwidth (hmemory input hinput)) hplanes hrows hcolumns
    have hnil := shown_eq_nil_iff hplaced hrow hcolumn
    refine ⟨hnil, fun hheight hwidth hempty => ?_, best.data[offset], ?_, ?_,
      of_windowMax (hentries offset hdata)⟩
    · rcases hnil.mp hempty with hover | hover
      · have hbounds := hover.bounds
        omega
      · have hbounds := hover.bounds
        omega
    · simp [Tensor.map, hdata]
    · simp [Tensor.map, hdata]

/-- A window whose entries lie two rows apart shows one of the two rows that there are. -/
theorem maxPool_shows_unless_steps_over_wide :
    let call : TensorArgs := { values := [
      ("self", .tensor (.float (Tensor.full [1, 2, 3] 1))), ("kernel_size", .list [.int 2]),
      ("stride", .list []), ("padding", .list [.int 1]), ("dilation", .list [.int 2, .int 1]),
      ("ceil_mode", .bool false)] }
    let window : PlaneWindow := {
      down := { kernel := 2, stride := 2, padding := 1, dilation := 2 }
      across := { kernel := 2, stride := 2, padding := 1, dilation := 1 }
      ceilMode := false }
    let planes : Planes := { stack := [1], height := 2, width := 3 }
    call.Fits (2 ^ 64) ∧ ∃ values, maxPoolOf call = .ok (.one (.float values)) ∧
      values.sizes = [1, 1, 2] ∧ ∀ offset < 2, window.shown planes 0 (offset % 2) ≠ [] ∧
        ∃ best, values.data[offset]? = some best.1 ∧
          planes.Answer (Array.replicate 6 1) (offset / 2) (window.shown planes 0 (offset % 2))
            best := by
  intro call window planes
  have hfits : call.Fits (2 ^ 64) :=
    .cons (.ofSizes [1, 2, 3] rfl (by decide)) (.cons (.ints [2] (by decide)) (.cons
      (.ints [] (by decide)) (.cons (.ints [1] (by decide)) (.cons (.ints [2, 1] (by decide)) (.cons
        .bool .nil)))))
  have hrule : Builtin.maxPool2d (call.map RealTensor.sizes) = .ok [1, 1, 2] := by
    decide +kernel
  have halike := maxPoolOf_follows call hfits
  rw [hrule] at halike
  obtain ⟨_, hanswer, pooled, rfl, hpooled⟩ := halike.ok
  have hmemory : ∀ input, floatArg call "self" = .ok input → input.data.size < 2 ^ 63 := by
    intro input hinput
    obtain rfl : Tensor.full [1, 2, 3] 1 = input := Except.ok.inj hinput
    rw [Tensor.size_data]
    show 6 < 2 ^ 63
    decide
  obtain ⟨input, window', planes', rows, columns, values, positions, hinput, hwindow, hstacked, -,
    -, hreturned, -, hsizes, -, hplaces⟩ := maxPool_shows_unless_steps_over hfits hmemory hanswer
  obtain rfl : pooled = values := by
    cases hreturned
    rfl
  obtain rfl : Tensor.full [1, 2, 3] 1 = input := Except.ok.inj hinput
  obtain rfl : window = window' := Except.ok.inj hwindow
  obtain rfl : planes = planes' := Except.ok.inj hstacked.planes_eq
  obtain ⟨rfl, rfl⟩ : 1 = rows ∧ 2 = columns := by simpa [planes, hpooled] using hsizes
  refine ⟨hfits, pooled, hanswer, hpooled, fun offset hoffset => ?_⟩
  obtain ⟨-, hnever, best, hbest, -, hanswers⟩ := hplaces offset (by rwa [hpooled])
  rw [Nat.mod_one, Nat.one_mul] at *
  exact ⟨hnever (.inl (Nat.le_refl 2)) (.inl (by decide)), best, hbest, hanswers⟩

theorem map_full (sizes : Sizes) (value : α) (f : α → β) :
    (Tensor.full sizes value).map f = Tensor.full sizes (f value) := by
  unfold Tensor.map Tensor.full
  simp only [Array.map_replicate]

/-- **A window may show nothing**: a plane of one element lies between the entries of a window of two
by two, which are two positions apart. -/
theorem maxPool_shows_nothing :
    let pixel : TensorArgs := { values := [
      ("self", .tensor (.float (Tensor.full [1, 1, 1] 5))), ("kernel_size", .list [.int 2]),
      ("stride", .list []), ("padding", .list [.int 1]), ("dilation", .list [.int 2]),
      ("ceil_mode", .bool false)] }
    ∃ window values positions, windowArg pixel = .ok window ∧
      window.down.positions 0 1 = [] ∧ window.across.positions 0 1 = [] ∧
      Builtin.maxPool2d (pixel.map RealTensor.sizes) = .ok [1, 1, 1] ∧
      maxPoolOf pixel = .ok (.one (.float values)) ∧
      maxPoolWithPositionsOf pixel = .ok (.many [.float values, .int positions]) ∧
      values.data = #[-Single.infinity] ∧ positions.data = #[0] := by
  intro pixel
  let motion : WindowMotion := { kernel := 2, stride := 2, padding := 1, dilation := 2 }
  let window : PlaneWindow := { down := motion, across := motion, ceilMode := false }
  let planes : Planes := { stack := [1], height := 1, width := 1 }
  -- The entries lie at -1 and at 1.
  have hpositions : motion.positions 0 1 = [] := by decide +kernel
  have hcount : motion.count false 1 = .ok 1 := by decide +kernel
  have hbuild : planes.build 1 1 (windowMax planes #[5] window) =
      .ok (Tensor.full [1, 1, 1] (-Single.infinity, 0)) := by
    refine build_eq_ok.mpr ⟨rfl, ?_⟩
    intro offset hoffset
    obtain rfl : offset = 0 := Nat.lt_one_iff.mp hoffset
    show windowMax planes #[5] window 0 0 0 = .ok (-Single.infinity, 0)
    unfold windowMax
    dsimp only [window, planes]
    rw [hpositions]
    rfl
  have hpool : maxPoolCall pixel =
      .ok (Tensor.full [1, 1, 1] (-Single.infinity), Tensor.full [1, 1, 1] 0) := by
    unfold maxPoolCall
    rw [show floatArg pixel "self" = .ok (Tensor.full [1, 1, 1] 5) from rfl, ok_bind,
      show windowArg pixel = .ok window from rfl, ok_bind, maxPool_eq_ok]
    refine ⟨planes, 1, 1, _, rfl, hcount, hcount, hbuild, ?_⟩
    have hword : wrapInt (0 : Nat) = 0 := wrapInt_of_lt (by decide)
    rw [map_full, map_full]
    dsimp only
    rw [hword]
  refine ⟨window, Tensor.full [1, 1, 1] (-Single.infinity), Tensor.full [1, 1, 1] 0, rfl, hpositions,
    hpositions, by decide +kernel, ?_, ?_, rfl, rfl⟩
  · rw [maxPoolOf_eq, hpool]
    rfl
  · rw [maxPoolWithPositionsOf_eq, hpool]
    rfl

end OpShape.Operator
