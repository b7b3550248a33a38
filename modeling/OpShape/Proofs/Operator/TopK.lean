/-
# `OpShape.Proofs.Operator.TopK` — the greatest or least entries along an axis.

From each lane as many entries are taken as are asked for, and they are written to the lane of a
table through the same place.  The lanes of the table hold each of its offsets once, so that nothing
is left blank and nothing is written over.  A scalar is read as a vector with one element, whose table
loses its dimension at the end.  That goes well if its one element is kept; a table of no elements
makes no scalar, and there the operator breaks down where the rule answers with two scalars.
-/
import OpShape.Builtin.Index
import OpShape.Proofs.Operator.Write
import OpShape.Proofs.Tensor.Lane

namespace OpShape.Operator

open Tensor (IsLane answers_fetch answers_ofData fetch_eq_ok)

-- The word of a position is known by its equations alone; to unfold it is to compute with `2 ^ 32`.
attribute [local irreducible] wrapInt

variable {α : Type} (bits : α → UInt32) (largest : Bool)

/-! ## Entries of one lane -/

/-- As many entries are taken as are asked for, where there are so many. -/
theorem length_topEntries {k : Nat} {lane : List α} (hk : k ≤ lane.length) :
    (topEntries bits largest k lane).length = k := by
  unfold topEntries
  rw [List.length_take, List.length_mergeSort, List.length_zipIdx, Nat.min_eq_left hk]

section Lanes

variable {source : Tensor α} {axis k : Nat}

/-- The lanes are counted by the elements that there are, if there are any. -/
theorem laneCount_eq {sizes : Sizes} (haxis : axis < sizes.length) (hsize : 0 < sizeAt sizes axis) :
    elementCount sizes / max (sizeAt sizes axis) 1 = elementCount (laneSizes sizes axis) := by
  rw [Nat.max_eq_left hsize, ← elementCount_laneSizes haxis, Nat.mul_div_cancel _ hsize]

/-- The lane of a table through a place has an offset for each entry that is kept. -/
theorem length_laneThrough_set {sizes : Sizes} (haxis : axis < sizes.length) (place : List Nat) :
    (laneThrough (sizes.set axis k) axis place).length = k := by
  rw [laneThrough_eq (by rwa [List.length_set]), List.length_map, List.length_range,
    sizeAt_set haxis]

variable (haxis : axis < source.sizes.length) (hk : k ≤ sizeAt source.sizes axis)
include haxis hk

/-- **What is written for one lane**: its first entries, to the lane of the table through the same
place. -/
theorem exists_laneWrites {place : List Nat} (hplace : Inside place (laneSizes source.sizes axis)) :
    ∃ lane, IsLane source axis place lane ∧
      laneWrites bits largest source.data source.sizes axis k place =
        .ok ((laneThrough (source.sizes.set axis k) axis place).zip
          (topEntries bits largest k lane)) := by
  have hread : Answers (List.Forall₂ (fun i x =>
        source.data[ravel (place.set axis i) source.sizes]? = some x)
        (List.range (sizeAt source.sizes axis)))
      ((List.range (sizeAt source.sizes axis)).mapM fun i =>
        Checked.fetch source.data (ravel (place.set axis i) source.sizes) : OpResult (List α)) := by
    refine Answers.mapM fun i hi => ?_
    have hinside : Inside (place.set axis i) source.sizes :=
      inside_set hplace (List.mem_range.mp hi)
    have hlt : ravel (place.set axis i) source.sizes < source.data.size :=
      source.size_data ▸ ravel_lt hinside
    rw [Checked.fetch_of_lt hlt]
    exact Array.getElem?_eq_getElem hlt
  obtain ⟨lane, hlane, helements⟩ := answers_iff.mp hread
  have hlength : lane.length = sizeAt source.sizes axis := by
    rw [← helements.length_eq, List.length_range]
  refine ⟨lane, ⟨hlength, fun i hi => ?_⟩, ?_⟩
  · rw [List.getElem?_eq_getElem hi]
    obtain ⟨j, hj, hget⟩ := getElem?_of_forall₂ helements (List.getElem?_eq_getElem hi)
    rw [List.getElem?_range (hlength ▸ hi)] at hj
    obtain rfl : i = j := Option.some.inj hj
    exact hget
  · unfold laneWrites
    rw [get_eq_sizeAt haxis, ok_bind, Checked.set_of_lt haxis, ok_bind, hlane, ok_bind]
    have hcut := length_topEntries bits largest (hlength ▸ hk)
    rw [laneThrough_eq (by rwa [List.length_set]), sizeAt_set haxis]
    generalize topEntries bits largest k lane = entries at hcut ⊢
    subst hcut
    refine congrArg Except.ok (List.ext_getElem? fun i => ?_)
    by_cases hi : i < entries.length
    · simp [hi]
    · simp [hi]

/-- The entry offsets that a lane's writes name are those of the lane of the table. -/
theorem map_fst_laneWrites {lane : List α} {place : List Nat} (hlane : IsLane source axis place lane) :
    ((laneThrough (source.sizes.set axis k) axis place).zip
      (topEntries bits largest k lane)).map Prod.fst =
        laneThrough (source.sizes.set axis k) axis place := by
  apply List.map_fst_zip
  rw [length_laneThrough_set haxis, length_topEntries bits largest (hlane.length ▸ hk)]

/-- **What is written for all lanes**: every offset of the table is named once, in the order of the
lanes, and the lane through each place is written with the first entries of the same lane of the
source. -/
theorem exists_topWrites :
    ∃ writes, topWrites bits largest source.data source.sizes axis k = .ok writes ∧
      writes.map Prod.fst = (lanes (source.sizes.set axis k) axis).flatten ∧
      ∀ place, Inside place (laneSizes source.sizes axis) → ∃ lane, IsLane source axis place lane ∧
        ∀ entry ∈ (laneThrough (source.sizes.set axis k) axis place).zip
          (topEntries bits largest k lane), entry ∈ writes := by
  have hlanes : laneSizes (source.sizes.set axis k) axis = laneSizes source.sizes axis :=
    List.set_set _
  have hblocks : Answers (List.Forall₂ (fun number block => ∃ lane,
        IsLane source axis (unravel number (laneSizes source.sizes axis)) lane ∧
        block = (laneThrough (source.sizes.set axis k) axis
          (unravel number (laneSizes source.sizes axis))).zip (topEntries bits largest k lane))
        (List.range (elementCount (laneSizes source.sizes axis))))
      ((List.range (elementCount (laneSizes source.sizes axis))).mapM fun number =>
        laneWrites bits largest source.data source.sizes axis k
          (unravel number (laneSizes source.sizes axis))) := by
    refine Answers.mapM fun number hnumber => ?_
    obtain ⟨lane, hlane, hwrites⟩ := exists_laneWrites bits largest haxis hk
      (inside_unravel_of_lt (List.mem_range.mp hnumber))
    rw [hwrites]
    exact ⟨lane, hlane, rfl⟩
  obtain ⟨blocks, hmapped, hblocks⟩ := answers_iff.mp hblocks
  have hnamed : blocks.flatten.map Prod.fst = (lanes (source.sizes.set axis k) axis).flatten := by
    rw [List.map_flatten, lanes, hlanes]
    refine congrArg List.flatten (map_eq_map_iff_forall₂.mpr (hblocks.flip.imp ?_))
    rintro block number ⟨lane, hlane, rfl⟩
    exact map_fst_laneWrites bits largest haxis hk hlane
  refine ⟨blocks.flatten, ?_, hnamed, fun place hplace => ?_⟩
  · unfold topWrites
    rw [get_eq_sizeAt haxis, ok_bind]
    obtain hsize | hsize := Nat.eq_zero_or_pos (sizeAt source.sizes axis)
    · -- No lane is counted, and none of them would write anything.
      have htable : axis < (source.sizes.set axis k).length := by rwa [List.length_set]
      have hkept : k = 0 := Nat.le_zero.mp (hsize ▸ hk)
      have hperm := lanes_perm htable
      rw [← hnamed, ← elementCount_laneSizes htable, sizeAt_set haxis, hkept, Nat.mul_zero] at hperm
      have hnothing : blocks.flatten = [] := List.map_eq_nil_iff.mp (List.perm_nil.mp hperm)
      rw [hnothing, ← elementCount_laneSizes haxis, hsize, Nat.mul_zero, Nat.zero_div]
      rfl
    · rw [laneCount_eq haxis hsize, hmapped]
      rfl
  · obtain ⟨block, hblock, lane, hlane, rfl⟩ :=
      exists_of_forall₂_left hblocks (List.mem_range.mpr (ravel_lt hplace))
    rw [unravel_ravel hplace] at hlane hblock
    exact ⟨lane, hlane, fun entry hentry => List.mem_flatten.mpr ⟨_, hblock, hentry⟩⟩

end Lanes

/-! ## Tables -/

/-- **`WritesOnce source axis k writes values positions`** — the tables after all writes: every
offset of them is written to once and holds what is written there, a position as a word of thirty-two
bits. -/
structure WritesOnce (source : Tensor α) (axis k : Nat) (writes : List (Nat × α × Nat))
    (values : Array α) (positions : Array Int) : Prop where
  once : (writes.map Prod.fst).Perm (List.range (elementCount (source.sizes.set axis k)))
  size_values : values.size = elementCount (source.sizes.set axis k)
  size_positions : positions.size = elementCount (source.sizes.set axis k)
  values : ∀ entry ∈ writes, values[entry.1]? = some entry.2.1
  positions : ∀ entry ∈ writes, positions[entry.1]? = some (wrapInt entry.2.2)

/-- A scalar as a vector with one element, and other tensors as they are. -/
def asVector (input : Tensor α) : Tensor α where
  sizes := paddedSizes 1 input.sizes
  data := input.data
  size_data := input.size_data.trans (elementCount_paddedSizes 1 input.sizes).symm

/-- A tensor with dimensions stays as it is. -/
theorem asVector_eq {input : Tensor α} (hrank : input.sizes ≠ []) : asVector input = input := by
  have hsizes : paddedSizes 1 input.sizes = input.sizes := if_neg (mt List.isEmpty_iff.mp hrank)
  unfold asVector
  cases input
  congr

/-- The table of a scalar has as many elements as are kept of it. -/
theorem elementCount_scalarTable {input : Tensor α} (hscalar : input.sizes = []) {axis : Nat}
    (haxis : axis < (asVector input).sizes.length) (k : Nat) :
    elementCount ((asVector input).sizes.set axis k) = k := by
  have hsizes : (asVector input).sizes = [1] := if_pos (List.isEmpty_iff.mpr hscalar)
  rw [hsizes] at haxis ⊢
  obtain rfl : axis = 0 := Nat.lt_one_iff.mp haxis
  exact Nat.mul_one k

section Tables

variable {input : Tensor α} {blank : α} {k : Int} {axis : Nat}
  (haxis : axis < max input.sizes.length 1)
include haxis

theorem lt_length_asVector : axis < (asVector input).sizes.length := by
  refine Nat.lt_of_lt_of_eq haxis ?_
  show max input.sizes.length 1 = (paddedSizes 1 input.sizes).length
  cases input.sizes with
  | nil => rfl
  | cons size sizes => exact Nat.max_eq_left (Nat.succ_le_succ (Nat.zero_le _))

theorem sizeAt_asVector : sizeAt (asVector input).sizes axis = input.sizes[axis]?.getD 1 := by
  have hlt := lt_length_asVector haxis
  rw [← paddedSizes_getElem? 1 input.sizes axis]
  unfold sizeAt
  show (asVector input).sizes[axis]?.getD 0 = (asVector input).sizes[axis]?.getD 1
  rw [List.getElem?_eq_getElem hlt]
  rfl

/-- More entries than there are, or fewer than none, are refused. -/
theorem topkAlong_refuses (hout : k < 0 ∨ ((input.sizes[axis]?.getD 1 : Nat) : Int) < k) :
    topkAlong bits blank input k axis largest = invalid "k is out of range" := by
  have hlt := lt_length_asVector haxis
  have hget : (Checked.get (paddedSizes 1 input.sizes) axis : OpResult Nat) =
      .ok (sizeAt (asVector input).sizes axis) := get_eq_sizeAt hlt
  unfold topkAlong
  dsimp only
  rw [hget, ok_bind, sizeAt_asVector haxis, if_pos hout]

/-- **Both tables are written once**, and are then read with the sizes of the answer. -/
theorem exists_topkAlong (hk : ¬ (k < 0 ∨ ((input.sizes[axis]?.getD 1 : Nat) : Int) < k)) :
    ∃ writes values positions,
      topWrites bits largest (asVector input).data (asVector input).sizes axis k.toNat =
        .ok writes ∧
      WritesOnce (asVector input) axis k.toNat writes values positions ∧
      topkAlong bits blank input k axis largest = (do
        let output := if input.sizes.isEmpty then [] else (asVector input).sizes.set axis k.toNat
        .ok (← Tensor.ofData output values, ← Tensor.ofData output positions)) := by
  have hlt := lt_length_asVector haxis
  have hkept : k.toNat ≤ sizeAt (asVector input).sizes axis := by
    rw [sizeAt_asVector haxis]
    omega
  have hget : (Checked.get (paddedSizes 1 input.sizes) axis : OpResult Nat) =
      .ok (sizeAt (asVector input).sizes axis) := get_eq_sizeAt hlt
  have hset : (Checked.set (paddedSizes 1 input.sizes) axis k.toNat : OpResult Sizes) =
      .ok ((asVector input).sizes.set axis k.toNat) := Checked.set_of_lt hlt k.toNat
  obtain ⟨writes, hwrites, hnamed, -⟩ :=
    exists_topWrites bits largest hlt hkept
  have honce : (writes.map Prod.fst).Perm
      (List.range (elementCount ((asVector input).sizes.set axis k.toNat))) :=
    hnamed ▸ lanes_perm (by rwa [List.length_set])
  obtain ⟨values, hvalues, hsize, hread⟩ := answers_iff.mp
    (@answers_writeAll_once _ (Array.replicate _ blank)
      (writes.map fun entry => (entry.1, entry.2.1))
      (by rw [List.map_map, Array.size_replicate]; exact honce))
  obtain ⟨positions, hpositions, hsize', hread'⟩ := answers_iff.mp
    (@answers_writeAll_once _ (Array.replicate _ (0 : Int))
      (writes.map fun entry => (entry.1, wrapInt entry.2.2))
      (by rw [List.map_map, Array.size_replicate]; exact honce))
  rw [Array.size_replicate] at hsize hsize'
  refine ⟨writes, values, positions, hwrites, ⟨honce, hsize, hsize', ?_, ?_⟩, ?_⟩
  · exact List.forall_mem_map.mp hread
  · exact List.forall_mem_map.mp hread'
  · unfold topkAlong
    dsimp only
    rw [hget, ok_bind, sizeAt_asVector haxis, if_neg hk, hset, ok_bind]
    show (topWrites bits largest (asVector input).data (asVector input).sizes axis k.toNat >>= _) = _
    rw [hwrites, ok_bind, hvalues, ok_bind, hpositions, ok_bind]

/-- Two tensors of the same sizes. -/
structure BothOf {β : Type} (sizes : Sizes) (tensors : Tensor α × Tensor β) : Prop where
  first : tensors.1.sizes = sizes
  second : tensors.2.sizes = sizes

/-- **The entries and their positions can be taken**, unless nothing is kept of a scalar. -/
theorem answers_topkAlong (hk : ¬ (k < 0 ∨ ((input.sizes[axis]?.getD 1 : Nat) : Int) < k))
    (hkept : input.sizes = [] → k.toNat = 1) :
    Answers (BothOf (input.sizes.set axis k.toNat))
      (topkAlong bits blank input k axis largest) := by
  obtain ⟨_, values, positions, -, honce, htopk⟩ :=
    exists_topkAlong bits largest haxis hk
  rw [htopk]
  rcases eq_or_ne input.sizes [] with hscalar | hscalar
  · have hempty : input.sizes.isEmpty = true := List.isEmpty_iff.mpr hscalar
    have hcount : elementCount ((asVector input).sizes.set axis k.toNat) = elementCount [] := by
      rw [elementCount_scalarTable hscalar (lt_length_asVector haxis), hkept hscalar]
      rfl
    dsimp only
    rw [if_pos hempty, Tensor.ofData_of_eq (honce.size_values.trans hcount), ok_bind,
      Tensor.ofData_of_eq (honce.size_positions.trans hcount), ok_bind, hscalar]
    exact ⟨rfl, rfl⟩
  · have hempty : ¬ input.sizes.isEmpty = true := mt List.isEmpty_iff.mp hscalar
    dsimp only
    rw [if_neg hempty, Tensor.ofData_of_eq honce.size_values, ok_bind,
      Tensor.ofData_of_eq honce.size_positions, ok_bind]
    have hsizes := congrArg (fun source => source.sizes.set axis k.toNat) (asVector_eq hscalar)
    exact ⟨hsizes, hsizes⟩

/-- **Nothing can be kept of a scalar**: the empty tables make no scalars. -/
theorem topkAlong_breaks_down (hscalar : input.sizes = []) :
    topkAlong bits blank input 0 axis largest = Checked.breakDown (.dataLength 1 0) := by
  have hkept : ¬ ((0 : Int) < 0 ∨ ((input.sizes[axis]?.getD 1 : Nat) : Int) < 0) := by omega
  obtain ⟨_, values, positions, -, honce, htopk⟩ :=
    exists_topkAlong bits largest haxis hkept
  have hempty : values.size = 0 := honce.size_values.trans
    (elementCount_scalarTable hscalar (lt_length_asVector haxis) 0)
  have hvoid : (Tensor.ofData [] values : OpResult (Tensor α)) =
      Checked.breakDown (.dataLength 1 0) := by
    unfold Tensor.ofData
    rw [dif_neg (by rw [hempty]; decide), hempty]
    rfl
  rw [htopk]
  dsimp only
  rw [if_pos (List.isEmpty_iff.mpr hscalar), hvoid]
  rfl

end Tables

/-! ## Calls -/

section Calls

/-- The rule replaces a size, where there is one to replace. -/
theorem ruleSizes_eq {sizes : Sizes} {axis k : Nat} (haxis : axis < max sizes.length 1) :
    (if sizes.isEmpty then .ok (sizes, sizes)
      else do
        let output ← Checked.set sizes axis k
        .ok (output, output) : ShapeResult (Sizes × Sizes)) =
      .ok (sizes.set axis k, sizes.set axis k) := by
  cases sizes with
  | nil => rfl
  | cons size sizes =>
    have hlt : axis < (size :: sizes).length := by
      rw [List.length_cons] at haxis ⊢
      omega
    rw [Checked.set_of_lt hlt]
    rfl

variable {bound : TensorArgs} {input : RealTensor} {k dim : Int} {largest : Bool}
variable (hinput : bound.tensor "self" = .ok input) (hk : bound.int "k" = .ok k)
  (hlargest : bound.bool "largest" = .ok largest) (hdim : bound.int "dim" = .ok dim)

/-- Nothing is kept of a scalar, along the axis that it has. -/
structure KeepsNothing (sizes : Sizes) (k dim : Int) : Prop where
  scalar : sizes = []
  none : k = 0
  axis : -1 ≤ dim ∧ dim < 1

include hinput hk hdim in
theorem greatest_eq :
    Builtin.greatest (bound.map RealTensor.sizes) = (do
      let (values, positions) ← Rule.topk input.sizes k dim
      .ok [values, positions]) := by
  unfold Builtin.greatest
  rw [tensor_sizes "self" hinput, BoundArgs.int_map, BoundArgs.int_map, hk, hdim]
  rfl

include hinput hk hlargest hdim

theorem topkOf_eq :
    topkOf bound = (do
      let axis ← resolveAxis input.sizes.length dim
      let (values, positions) ← topkAlong Float32.toBits 0.0 input.toFloats k axis largest
      many [.float values, .int positions]) := by
  unfold topkOf topk
  rw [floatArg_eq "self" hinput, hk, hlargest, hdim]
  simp only [lift_ok_operator, ok_bind, RealTensor.sizes_toFloats, bind_assoc]

/-- **The greatest or least entries are taken by their rule**, unless nothing is kept of a scalar. -/
theorem topkOf_alike (hkept : ¬ KeepsNothing input.sizes k dim) :
    Alike ManyOf (Builtin.greatest (bound.map RealTensor.sizes)) (topkOf bound) := by
  rw [greatest_eq hinput hk hdim, topkOf_eq hinput hk hlargest hdim]
  unfold Rule.topk
  rw [bind_assoc]
  apply (alike_axis dim input.sizes.length).and_eq_ok.bind
  rintro axis _ ⟨⟨rfl, haxis⟩, hnamed⟩
  dsimp only
  have haxis' : axis < max input.toFloats.sizes.length 1 := by rwa [input.sizes_toFloats]
  by_cases hrange : k < 0 ∨ ((input.sizes[axis]?.getD 1 : Nat) : Int) < k
  · have hrange' : k < 0 ∨ input.sizes[axis]?.getD 1 < k.toNat := by omega
    rw [topkAlong_refuses _ _ haxis' (by rwa [input.sizes_toFloats]), if_pos hrange']
    exact alike_error_error
  · have hrange' : ¬ (k < 0 ∨ input.sizes[axis]?.getD 1 < k.toNat) := by omega
    have hkept' : input.sizes = [] → k.toNat = 1 := by
      intro hscalar
      have hzero : k ≠ 0 := by
        rintro rfl
        rw [hscalar] at hnamed
        exact hkept ⟨hscalar, rfl, resolveAxis_scalar.mp ⟨axis, hnamed⟩⟩
      rw [hscalar] at hrange
      change ¬ (k < 0 ∨ (1 : Int) < k) at hrange
      omega
    rw [if_neg hrange', ruleSizes_eq haxis, ok_bind]
    apply Answers.alike
    apply (answers_topkAlong _ _ haxis' (by rwa [input.sizes_toFloats])
      (by rwa [input.sizes_toFloats])).bind
    rintro ⟨values, positions⟩ ⟨hvalues, hpositions⟩
    rw [input.sizes_toFloats] at hvalues hpositions
    show Returned.many [values.sizes, positions.sizes] = _
    rw [hvalues, hpositions]

/-- **Where nothing is kept of a scalar only the rule answers**, with two scalars. -/
theorem keepsNothing_disagree (hnothing : KeepsNothing input.sizes k dim) :
    Builtin.greatest (bound.map RealTensor.sizes) = .ok [[], []] ∧
      topkOf bound = Checked.breakDown (.dataLength 1 0) := by
  obtain ⟨hscalar, rfl, hin⟩ := hnothing
  obtain ⟨axis, haxis⟩ := resolveAxis_scalar.mpr hin
  obtain ⟨named, hnamed, rfl, hlt⟩ := (alike_axis dim 0).of_right haxis
  obtain rfl : named = 0 := Nat.lt_one_iff.mp hlt
  constructor
  · rw [greatest_eq hinput hk hdim, hscalar]
    unfold Rule.topk
    rw [List.length_nil, hnamed]
    rfl
  · rw [topkOf_eq hinput hk hlargest hdim, hscalar, List.length_nil, haxis, ok_bind]
    have hfloats := input.sizes_toFloats.trans hscalar
    have hpoint : 0 < max input.toFloats.sizes.length 1 :=
      Nat.lt_of_lt_of_le Nat.zero_lt_one (Nat.le_max_right _ _)
    rw [topkAlong_breaks_down _ _ hpoint hfloats]
    rfl

end Calls

/-- The call asks for zero entries of a scalar. -/
def EmptyingCall (bound : TensorArgs) : Prop :=
  ∃ input k dim, bound.tensor "self" = .ok input ∧ bound.int "k" = .ok k ∧
    bound.int "dim" = .ok dim ∧ KeepsNothing input.sizes k dim

end OpShape.Operator

namespace OpShape

variable {draws : Draws}

/-! ## Agreement -/

/-- **The two sides agree on a well typed call for the greatest or least entries exactly if it does
not ask for zero entries of a scalar**: the tensor may have any rank and sizes, and the entries any
number and any axis. -/
theorem topk_agrees_iff {function : ShapeFunction} (hfunction : function ∈ Builtin.indexFamily)
    (hop : function.op = Builtin.aten "topk") {args : CallArgs RealTensor} {bound : TensorArgs}
    (hbind : function.signature.bind args = .ok bound)
    (htyped : function.signature.WellTyped bound) (token : Nat) :
    ∃ operator, Operator.ofName? draws function.op.text = some operator ∧
      (Agree (function.call token (args.map RealTensor.sizes)) (operator bound) ↔
        ¬ Operator.EmptyingCall bound) := by
  rw [ShapeFunction.call_sizes hbind]
  have hentry : function = Builtin.indexFamily[8] := by
    unfold Builtin.indexFamily at hfunction
    simp only [List.mem_cons, List.not_mem_nil, or_false] at hfunction
    rcases hfunction with rfl | rfl | rfl | rfl | rfl | rfl | rfl | rfl | rfl
    all_goals first | rfl | exact absurd hop (by decide)
  subst hentry
  obtain ⟨input, hinput⟩ := htyped.tensor "self" rfl rfl
  obtain ⟨k, hk⟩ := htyped.int "k" rfl rfl
  obtain ⟨dim, hdim⟩ := htyped.int "dim" rfl rfl
  obtain ⟨largest, hlargest⟩ := htyped.bool "largest" rfl rfl
  refine ⟨Operator.topkOf, rfl, ?_, ?_⟩
  · rintro hagree ⟨input', k', dim', hinput', hk', hdim', hnothing⟩
    obtain rfl := Except.ok.inj (hinput.symm.trans hinput')
    obtain rfl := Except.ok.inj (hk.symm.trans hk')
    obtain rfl := Except.ok.inj (hdim.symm.trans hdim')
    obtain ⟨hanswer, hbroken⟩ := Operator.keepsNothing_disagree hinput hk hlargest hdim hnothing
    have hshapes : Builtin.many Builtin.greatest token (bound.map RealTensor.sizes) =
        .ok (.many [.ofSizes [], .ofSizes []]) := by
      unfold Builtin.many
      rw [hanswer]
      rfl
    obtain ⟨tensors, htensors⟩ := (agree_iff.mp hagree).1.mp ⟨_, hshapes⟩
    rw [hbroken] at htensors
    cases htensors
  · intro hkept
    have hplain : ¬ Operator.KeepsNothing input.sizes k dim :=
      fun h => hkept ⟨input, k, dim, hinput, hk, hdim, h⟩
    exact agree_of_manyOf token (Operator.topkOf_alike hinput hk hlargest hdim hplain)

/-- No entry is kept of a dimension that has none. -/
theorem topk_agrees_iff_empty :
    let empty : TensorArgs := { values := [
      ("self", .tensor (.float (Tensor.full [0, 2] 1))),
      ("k", .int 0),
      ("dim", .int (-2)),
      ("largest", .bool false),
      ("sorted", .bool true)] }
    (∃ operator, Operator.ofName? Single.spread "aten::topk" = some operator ∧
      (Agree
          (Builtin.indexFamily[8].call 0
            { positional := [.tensor [0, 2], .int 0, .int (-2), .bool false], keywords := [] })
          (operator empty) ↔
        ¬ Operator.EmptyingCall empty)) ∧
      ¬ Operator.EmptyingCall empty := by
  intro empty
  constructor
  · refine @topk_agrees_iff Single.spread Builtin.indexFamily[8] (List.getElem_mem _) rfl {
      positional := [
        .tensor (.float (Tensor.full [0, 2] 1)), .int 0, .int (-2), .bool false],
      keywords := [] } empty rfl ?_ 0
    exact .cons ⟨rfl, _, rfl⟩ (.cons ⟨rfl, 0, rfl⟩ (.cons ⟨rfl, -2, rfl⟩
      (.cons ⟨rfl, _, rfl⟩ (.cons ⟨rfl, _, rfl⟩ .nil))))
  · rintro ⟨input, k, dim, hinput, -, -, hnothing⟩
    obtain rfl : RealTensor.float (Tensor.full [0, 2] 1) = input := Except.ok.inj hinput
    cases hnothing.scalar

/-- Nothing is kept of a scalar: the rule answers with two scalars, and the operator breaks down. -/
theorem topk_disagrees_on_scalar :
    let scalar : TensorArgs := { values := [
      ("self", .tensor (.float (Tensor.full [] 1))),
      ("k", .int 0),
      ("dim", .int (-1)),
      ("largest", .bool true),
      ("sorted", .bool true)] }
    Builtin.indexFamily[8].signature.WellTyped scalar ∧
      ¬ ∃ operator, Operator.ofName? Single.spread "aten::topk" = some operator ∧
        Agree
          (Builtin.indexFamily[8].call 0 { positional := [.tensor [], .int 0], keywords := [] })
          (operator scalar) := by
  intro scalar
  constructor
  · exact .cons ⟨rfl, _, rfl⟩ (.cons ⟨rfl, 0, rfl⟩ (.cons ⟨rfl, -1, rfl⟩
      (.cons ⟨rfl, _, rfl⟩ (.cons ⟨rfl, _, rfl⟩ .nil))))
  · rintro ⟨operator, hoperator, hagree⟩
    obtain rfl : Operator.topkOf = operator := Option.some.inj hoperator
    have hnothing : Operator.KeepsNothing [] 0 (-1) := ⟨rfl, rfl, by decide⟩
    obtain ⟨-, hbroken⟩ :=
      @Operator.keepsNothing_disagree scalar _ _ _ true rfl rfl rfl rfl hnothing
    obtain ⟨tensors, htensors⟩ := (agree_iff.mp hagree).1.mp ⟨_, rfl⟩
    rw [hbroken] at htensors
    cases htensors

end OpShape
