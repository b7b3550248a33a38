/-
# `OpShape.Proofs.Operator.SameCalls` — calls that pick the same elements.

The arguments of one picking operator can be written as arguments of another one: a range as the
list of its positions, one position or a list of them as an index tensor behind dimensions without
an index, a list also as positions to gather, and the rows of a table as an index for its first
dimension.  Such calls answer with the same tensor, shape and elements, as long as the size of the
dimension is a signed word: that of a larger one is taken for a negative number.  The length of a
range and its step are added up to a word as well, or else its positions are counted wrongly.
-/
import OpShape.Proofs.Operator.SamePicks

namespace OpShape.Operator

attribute [local irreducible] signed

/-! ## The positions of a range -/

theorem clampedBound_mem (size : Nat) (bound : Int) :
    0 ≤ clampedBound size bound ∧ clampedBound size bound ≤ size := by
  unfold clampedBound
  omega

theorem sliceBound_eq {size : Nat} (hsize : size < 2 ^ 63) (bound : Int) :
    sliceBound size bound = .ok (clampedBound size bound) := by
  unfold sliceBound
  rw [signed_of_lt hsize]
  exact Checked.clamp_of_le (Int.natCast_nonneg size) _

/-- **`RangePositions`** — the positions from the first bound on in steps, up to the second one, in
increasing order and each of them once. -/
structure RangePositions (size : Nat) (start stop : Option Int) (step : Int)
    (positions : List Int) : Prop where
  increasing : positions.Pairwise (· < ·)
  mem : ∀ position, position ∈ positions ↔ ∃ k : Nat,
    position = clampedBound size (start.getD 0) + k * step ∧
      position < clampedBound size (stop.getD size)

/-- A range has so many positions that the next one would lie beyond its end. -/
theorem lt_rangeCount_iff {start stop step i : Int} (hstep : 0 < step) (hi : 0 ≤ i) :
    i < rangeCount start stop step ↔ start + i * step < stop := by
  constructor
  · intro h
    exact rangeCount_position hstep h hi
  · intro h
    have hadvance : 0 ≤ i * step := Int.mul_nonneg hi (Int.le_of_lt hstep)
    have hle : i ≤ (stop - start - 1) / step := Int.le_ediv_of_mul_le hstep (by omega)
    unfold rangeCount
    rw [if_pos (by omega)]
    omega

/-- The positions of a range, one step after the other. -/
def rangePositions (start stop step : Int) : List Int :=
  (List.range (rangeCount start stop step).toNat).map fun i : Nat => start + i * step

theorem mem_rangePositions {start stop step position : Int} (hstep : 0 < step) :
    position ∈ rangePositions start stop step ↔
      ∃ k : Nat, position = start + k * step ∧ position < stop := by
  have hlt : ∀ k : Nat, k < (rangeCount start stop step).toNat ↔ start + k * step < stop := by
    intro k
    rw [← lt_rangeCount_iff hstep (Int.natCast_nonneg k)]
    omega
  unfold rangePositions
  rw [List.mem_map]
  constructor
  · rintro ⟨k, hk, rfl⟩
    exact ⟨k, rfl, (hlt k).mp (List.mem_range.mp hk)⟩
  · rintro ⟨k, rfl, hk⟩
    exact ⟨k, List.mem_range.mpr ((hlt k).mpr hk), rfl⟩

theorem rangePositions_increasing {start stop step : Int} (hstep : 0 < step) :
    (rangePositions start stop step).Pairwise (· < ·) := by
  unfold rangePositions
  rw [List.pairwise_map]
  apply List.pairwise_lt_range.imp
  intro i j hij
  have hsteps : (i : Int) * step < j * step := Int.mul_lt_mul_of_pos_right (by omega) hstep
  omega

/-- A range that does not fit is counted wrongly: there is a position in it, and in words there are
none, or more than there are signed words. -/
theorem rangeCount_ne_words {start stop step : Int} (hstep : 0 < step) (hword : step < 2 ^ 63)
    (hlength : stop - start < 2 ^ 63) (hfits : ¬ RangeFits start stop step) :
    wordSize (if start < stop then (toWord (stop - start + step - 1)).tdiv step else 0) ≠
      (rangeCount start stop step).toNat := by
  obtain ⟨horder, hsum⟩ : start < stop ∧ ¬ stop - start + step ≤ 2 ^ 63 := Classical.not_imp.mp hfits
  have hcount : 0 ≤ (stop - start - 1) / step ∧ (stop - start - 1) / step ≤ stop - start - 1 :=
    ⟨Int.ediv_nonneg (by omega) (Int.le_of_lt hstep), Int.ediv_le_self step (by omega)⟩
  -- The sum has left the words, so that it is taken for a negative number.
  have hwrapped : toWord (stop - start + step - 1) = -(2 ^ 64 - (stop - start + step - 1)) := by
    rw [toWord_of_ge (by omega) (by omega)]
    omega
  have hquotient : 0 ≤ (2 ^ 64 - (stop - start + step - 1)) / step ∧
      (2 ^ 64 - (stop - start + step - 1)) / step ≤ 2 ^ 64 - (stop - start + step - 1) :=
    ⟨Int.ediv_nonneg (by omega) (Int.le_of_lt hstep), Int.ediv_le_self step (by omega)⟩
  rw [if_pos horder, hwrapped, Int.neg_tdiv, Int.tdiv_eq_ediv_of_nonneg (by omega)]
  generalize (2 ^ 64 - (stop - start + step - 1)) / step = quotient at hquotient
  unfold rangeCount wordSize
  rw [if_pos horder]
  simp only [show Nat.pow 2 64 = 2 ^ 64 from rfl]
  omega

/-- The range of ten entries with the greatest step has one position, and in words it has none. -/
example : rangeCount 0 10 (2 ^ 63 - 1) = 1 ∧
    sliceRange 10 (some 0) (some 10) (2 ^ 63 - 1) = .ok (0, 0) := by
  decide +kernel

/-- The operator goes through the same positions, just if they fit. -/
theorem sliceRange_eq {size : Nat} (hsize : size < 2 ^ 63) (start stop : Option Int) {step : Int}
    (hstep : 0 < step) (hword : step < 2 ^ 63) :
    let first := clampedBound size (start.getD 0)
    let last := clampedBound size (stop.getD size)
    ∃ count, sliceRange size start stop step = .ok (first.toNat, count) ∧
      (count = (rangeCount first last step).toNat ↔ RangeFits first last step) := by
  intro first last
  refine ⟨wordSize (if first < last then (toWord (last - first + step - 1)).tdiv step else 0),
    ?_, ?_, ?_⟩
  · unfold sliceRange
    rw [if_neg (Int.not_le.mpr hstep), sliceBound_eq hsize, ok_bind, signed_of_lt hsize,
      sliceBound_eq hsize, ok_bind]
  · have hfirst := clampedBound_mem size (start.getD 0)
    have hlast := clampedBound_mem size (stop.getD size)
    exact fun hcount => of_not_not fun hfits =>
      rangeCount_ne_words hstep hword (by omega) hfits hcount
  · exact rangeCount_eq_words hstep

/-- A position that is there is resolved to itself. -/
theorem resolveIndex_of_lt {size : Nat} (hsize : size < 2 ^ 63) {position : Int}
    (hnonneg : 0 ≤ position) (hlt : position < size) :
    resolveIndex position size = .ok position.toNat := by
  obtain ⟨row, hrow, -⟩ := answers_iff.mp
    ((answersIf_resolveIndex size position).answers ⟨hsize, by omega, hlt⟩)
  rw [hrow, (resolveIndex_of_nonneg hnonneg hrow).1]

theorem resolve_rangePositions {size : Nat} (hsize : size < 2 ^ 63) (start stop : Int) {step : Int}
    (hstep : 0 < step) :
    (rangePositions (clampedBound size start) (clampedBound size stop) step).mapM
        (fun i => resolveIndex i size) =
      .ok ((List.range (rangeCount (clampedBound size start) (clampedBound size stop)
        step).toNat).map fun i => (clampedBound size start).toNat + i * step.toNat) := by
  have hfirst := (clampedBound_mem size start).1
  have hlast := (clampedBound_mem size stop).2
  have hmem := fun position => @mem_rangePositions (clampedBound size start)
    (clampedBound size stop) step position hstep
  generalize clampedBound size start = first at hfirst hmem ⊢
  generalize clampedBound size stop = last at hlast hmem ⊢
  unfold rangePositions at hmem ⊢
  rw [mapM_eq_ok, List.forall₂_map_left_iff, List.forall₂_map_right_iff, List.forall₂_same]
  intro i hi
  have hlt : first + i * step < last :=
    ((hmem _).mp (List.mem_map_of_mem hi)).choose_spec.2
  have hadvance : 0 ≤ (i : Int) * step :=
    Int.mul_nonneg (Int.natCast_nonneg i) (Int.le_of_lt hstep)
  rw [resolveIndex_of_lt hsize (by omega) (by omega), Int.toNat_add hfirst hadvance,
    Int.toNat_mul (Int.natCast_nonneg i) (Int.le_of_lt hstep), Int.toNat_natCast]

/-! ## Arguments of calls -/

/-- An integer as an argument, or none. -/
def optIntArg : Option Int → Arg RealTensor
  | none => .none
  | some value => .int value

/-- An index tensor as an argument, or none. -/
def indexArg : Option (Tensor Int) → Arg RealTensor
  | none => .none
  | some index => .tensor (.int index)

variable (input : Tensor Float32)

/-- To pick a range of positions of a dimension. -/
def sliceArgs (dim : Int) (start stop : Option Int) (step : Int) : TensorArgs where
  values := [("self", .tensor (.float input)), ("dim", .int dim), ("start", optIntArg start),
    ("end", optIntArg stop), ("step", .int step)]

/-- To pick one position of a dimension. -/
def selectArgs (dim position : Int) : TensorArgs where
  values := [("self", .tensor (.float input)), ("dim", .int dim), ("index", .int position)]

/-- To pick or gather along a dimension by a tensor of positions. -/
def alongArgs (dim : Int) (index : Tensor Int) : TensorArgs where
  values := [("self", .tensor (.float input)), ("dim", .int dim), ("index", .tensor (.int index))]

/-- To pick by index tensors, one per leading dimension. -/
def indexArgs (indices : List (Option (Tensor Int))) : TensorArgs where
  values := [("self", .tensor (.float input)), ("indices", .list (indices.map indexArg))]

/-- To pick rows of a table. -/
def embeddingArgs (indices : Tensor Int) : TensorArgs where
  values := [("weight", .tensor (.float input)), ("indices", .tensor (.int indices))]

variable {input}

theorem indexTensors_indexArgs (indices : List (Option (Tensor Int))) :
    indexTensors (indexArgs input indices) true = .ok indices := by
  have hviewed : (indexArgs input indices).optTensors "indices" =
      .ok (indices.map (Option.map RealTensor.int)) := by
    refine BoundArgs.take_eq_ok.mpr ⟨.list (indices.map indexArg), rfl, ?_⟩
    show (indices.map indexArg).mapM _ = some (indices.map (Option.map RealTensor.int))
    induction indices with
    | nil => rfl
    | cons index indices ih =>
      rw [List.map_cons, List.mapM_cons, ih]
      cases index <;> rfl
  unfold indexTensors
  rw [if_pos rfl, hviewed, lift_ok_operator, ok_bind, List.map_map]
  refine congrArg Except.ok ((List.map_congr_left ?_).trans (List.map_id indices))
  intro index _
  cases index <;> rfl

/-! ## Calls -/

section Calls

variable {output : Tensor Float32} {dim : Int} {axis : Nat}

variable (hrank : input.sizes ≠ []) (haxis : resolveAxis input.sizes.length dim = .ok axis)
include hrank haxis

theorem sliceOf_eq (start stop : Option Int) (step : Int) :
    sliceOf (sliceArgs input dim start stop step) = (do
      let (first, count) ← sliceRange (sizeAt input.sizes axis) start stop step
      one (← slice input axis first count step.toNat)) := by
  have hstart : (sliceArgs input dim start stop step).optInt "start" = .ok start := by
    cases start <;> rfl
  have hstop : (sliceArgs input dim start stop step).optInt "end" = .ok stop := by
    cases stop <;> rfl
  have hself : floatArg (sliceArgs input dim start stop step) "self" = .ok input := rfl
  have hdim : (sliceArgs input dim start stop step).int "dim" = .ok dim := rfl
  have hstep : (sliceArgs input dim start stop step).int "step" = .ok step := rfl
  unfold sliceOf
  rw [hself, ok_bind, if_neg (mt List.isEmpty_iff.mp hrank), hdim, lift_ok_operator, ok_bind, haxis,
    ok_bind, hstep, lift_ok_operator, ok_bind, get_eq_sizeAt (axis_lt hrank haxis), ok_bind, hstart,
    lift_ok_operator, ok_bind, hstop, lift_ok_operator, ok_bind]

theorem selectOf_eq {named : Int} {position : Nat}
    (hposition : resolveIndex named (sizeAt input.sizes axis) = .ok position)
    (h : select input axis position = .ok output) :
    selectOf (selectArgs input dim named) = .ok (.one (.float output)) := by
  have hself : floatArg (selectArgs input dim named) "self" = .ok input := rfl
  have hdim : (selectArgs input dim named).int "dim" = .ok dim := rfl
  have hindex : (selectArgs input dim named).int "index" = .ok named := rfl
  unfold selectOf
  rw [hself, ok_bind, if_neg (mt List.isEmpty_iff.mp hrank), hdim, lift_ok_operator, ok_bind, haxis,
    ok_bind, hindex, lift_ok_operator, ok_bind, get_eq_sizeAt (axis_lt hrank haxis), ok_bind,
    hposition, ok_bind, h, ok_bind]
  rfl

theorem indexSelectOf_eq {index : Tensor Int} {positions : List Nat}
    (hindex : index.sizes.length ≤ 1)
    (hpositions : index.data.toList.mapM (fun i => resolveIndex i (sizeAt input.sizes axis)) =
      .ok positions)
    (h : pick input axis positions = .ok output) :
    indexSelectOf (alongArgs input dim index) = .ok (.one (.float output)) := by
  have hself : floatArg (alongArgs input dim index) "self" = .ok input := rfl
  have hdim : (alongArgs input dim index).int "dim" = .ok dim := rfl
  have hnamed : intArg (alongArgs input dim index) "index" = .ok index := rfl
  unfold indexSelectOf
  rw [hself, ok_bind, hnamed, ok_bind, if_neg (Nat.not_lt.mpr hindex), hdim, lift_ok_operator,
    ok_bind, haxis, ok_bind, if_neg (mt List.isEmpty_iff.mp hrank),
    get_eq_sizeAt (axis_lt hrank haxis), ok_bind, hpositions, ok_bind, h, ok_bind]
  rfl

theorem gatherOf_eq {index : Tensor Int} {count : Nat}
    (hindex : index.sizes = input.sizes.set axis count)
    (h : gather input axis index = .ok output) :
    gatherOf (alongArgs input dim index) = .ok (.one (.float output)) := by
  have hself : floatArg (alongArgs input dim index) "self" = .ok input := rfl
  have hdim : (alongArgs input dim index).int "dim" = .ok dim := rfl
  have hnamed : intArg (alongArgs input dim index) "index" = .ok index := rfl
  have hlength : index.sizes.length = input.sizes.length := by rw [hindex, List.length_set]
  have hfits : indexFits index.sizes input.sizes axis = true := by
    have hlt := axis_lt hrank haxis
    refine (fitsOutside_iff_operator ⟨by rw [hlength], by omega⟩).mpr ?_
    intro other size limit hother hsize hlimit
    rw [hindex, List.getElem?_set_ne hother.symm, hlimit] at hsize
    exact Nat.le_of_eq (Option.some.inj hsize).symm
  unfold gatherOf
  rw [hself, ok_bind, hnamed, ok_bind, hdim, lift_ok_operator, ok_bind, haxis, ok_bind,
    if_neg (by rw [hlength]; exact not_not.mpr rfl), hfits, h]
  rfl

end Calls

theorem indexOf_eq {output : Tensor Float32} {indices : List (Option (Tensor Int))}
    (h : index input indices = .ok output) :
    indexOf (indexArgs input indices) = .ok (.one (.float output)) := by
  have hself : floatArg (indexArgs input indices) "self" = .ok input := rfl
  unfold indexOf
  rw [hself, ok_bind, indexTensors_indexArgs, ok_bind, h, ok_bind]
  rfl

theorem embeddingOf_eq {output : Tensor Float32} {indices : Tensor Int}
    (h : embedding input indices = .ok output) :
    embeddingOf (embeddingArgs input indices) = .ok (.one (.float output)) := by
  have hself : floatArg (embeddingArgs input indices) "weight" = .ok input := rfl
  have hnamed : intArg (embeddingArgs input indices) "indices" = .ok indices := rfl
  unfold embeddingOf
  rw [hself, ok_bind, hnamed, ok_bind, h, ok_bind]
  rfl

/-! ## Agreement -/

/-- Both calls answer, with one and the same tensor. -/
def AnswerSame (x y : OpResult (Returned RealTensor)) : Prop :=
  ∃ output : Tensor Float32, x = .ok (.one (.float output)) ∧ y = .ok (.one (.float output))

/-- Positions that could be resolved can be picked. -/
theorem exists_pick {axis : Nat} {names : List Int} {positions : List Nat}
    (haxis : axis < input.sizes.length)
    (h : names.mapM (fun i => resolveIndex i (sizeAt input.sizes axis)) = .ok positions) :
    ∃ output, pick input axis positions = .ok output := by
  have hinside : ∀ position ∈ positions, position < sizeAt input.sizes axis := by
    intro position hposition
    obtain ⟨named, -, hnamed⟩ := exists_of_forall₂_right (mapM_eq_ok.mp h) hposition
    exact lt_of_resolveIndex hnamed
  obtain ⟨output, houtput, -⟩ := answers_iff.mp (answers_pick haxis hinside)
  exact ⟨output, houtput⟩

theorem sizes_of_pick {output : Tensor Float32} {axis : Nat} {positions : List Nat}
    (haxis : axis < input.sizes.length) (h : pick input axis positions = .ok output) :
    output.sizes = input.sizes.set axis positions.length := by
  unfold pick at h
  rw [Checked.set_of_lt haxis, ok_bind] at h
  exact (Tensor.ofIndices_eq_ok.mp h).1

theorem sizes_of_slice {output : Tensor Float32} {axis start count step : Nat}
    (haxis : axis < input.sizes.length) (h : slice input axis start count step = .ok output) :
    output.sizes = input.sizes.set axis count := by
  unfold slice at h
  rw [Checked.set_of_lt haxis, ok_bind] at h
  exact (Tensor.ofIndices_eq_ok.mp h).1

/-- Positions in range can be resolved. -/
theorem exists_resolved {size : Nat} (hsize : size < 2 ^ 63) {index : Tensor Int}
    (h : InRange size index) :
    ∃ positions, index.data.toList.mapM (fun i => resolveIndex i size) = .ok positions := by
  rw [mapM_answers]
  intro named hnamed
  obtain ⟨position, hposition, -⟩ := answers_iff.mp
    ((answersIf_resolveIndex size named).answers ⟨hsize, h named (Array.mem_toList_iff.mp hnamed)⟩)
  exact ⟨position, hposition⟩

section Agreement

variable {dim : Int} {axis : Nat} (hrank : input.sizes ≠ [])
  (haxis : resolveAxis input.sizes.length dim = .ok axis)
  (hsize : sizeAt input.sizes axis < 2 ^ 63)
include hrank haxis hsize

/-- **A range is the list of its positions**, just if it fits. -/
theorem slice_indexSelect_same (start stop : Option Int) {step : Int} (hstep : 0 < step)
    (hword : step < 2 ^ 63) :
    ∃ positions, RangePositions (sizeAt input.sizes axis) start stop step positions ∧
      (AnswerSame (sliceOf (sliceArgs input dim start stop step))
          (indexSelectOf (alongArgs input dim (Tensor.vector positions))) ↔
        RangeFits (clampedBound (sizeAt input.sizes axis) (start.getD 0))
          (clampedBound (sizeAt input.sizes axis) (stop.getD (sizeAt input.sizes axis : Nat)))
          step) := by
  have hlt := axis_lt hrank haxis
  obtain ⟨count, hcounted, hcount⟩ := sliceRange_eq hsize start stop hstep hword
  have hsame := sliceOf_eq hrank haxis start stop step
  rw [hcounted, ok_bind] at hsame
  have hresolved := resolve_rangePositions hsize (start.getD 0)
    (stop.getD (sizeAt input.sizes axis : Nat)) hstep
  refine ⟨rangePositions (clampedBound (sizeAt input.sizes axis) (start.getD 0))
    (clampedBound (sizeAt input.sizes axis) (stop.getD (sizeAt input.sizes axis : Nat))) step,
    ⟨rangePositions_increasing hstep, fun _ => mem_rangePositions hstep⟩, ?_⟩
  generalize clampedBound (sizeAt input.sizes axis) (start.getD 0) = first
    at hsame hresolved hcount ⊢
  generalize clampedBound (sizeAt input.sizes axis) (stop.getD (sizeAt input.sizes axis : Nat)) =
    last at hsame hresolved hcount ⊢
  obtain ⟨output, hpick⟩ := exists_pick hlt hresolved
  have hlist := @indexSelectOf_eq input output dim axis hrank haxis
    (Tensor.vector (rangePositions first last step)) _ (Nat.le_refl 1) hresolved hpick
  rw [← hcount, hsame, hlist]
  constructor
  · rintro ⟨output', hslice, hpicked⟩
    obtain rfl : output = output' := by simpa using hpicked
    obtain ⟨sliced, hsliced, hone⟩ := bind_eq_ok.mp hslice
    obtain rfl : sliced = output := by simpa [one] using hone
    -- The one answer has a size along the axis, which both calls name.
    have hsizes := (sizes_of_slice hlt hsliced).symm.trans (sizes_of_pick hlt hpick)
    have hnamed := congrArg (sizeAt · axis) hsizes
    simpa [sizeAt_set hlt] using hnamed
  · rintro rfl
    refine ⟨output, ?_, rfl⟩
    dsimp only
    rw [slice_of_pick hlt hpick]
    rfl

/-- **One position is an index tensor without dimensions**, behind dimensions without an index. -/
theorem select_index_same {named : Int} (hnamed : -(sizeAt input.sizes axis : Int) ≤ named ∧
      named < sizeAt input.sizes axis) :
    AnswerSame (selectOf (selectArgs input dim named))
      (indexOf (indexArgs input (List.replicate axis none ++ [some (Tensor.scalar named)]))) := by
  have hlt := axis_lt hrank haxis
  obtain ⟨position, hposition, hbelow⟩ :=
    answers_iff.mp ((answersIf_resolveIndex _ named).answers ⟨hsize, hnamed⟩)
  obtain ⟨output, hselect, -⟩ := answers_iff.mp (@answers_select _ input _ _ hlt hbelow)
  refine ⟨output, selectOf_eq hrank haxis hposition hselect, ?_⟩
  exact indexOf_eq (index_of_select hlt hposition hselect)

/-- **A list of positions is an index tensor of one dimension**, behind dimensions without an
index. -/
theorem indexSelect_index_same {index : Tensor Int} {count : Nat} (hindex : index.sizes = [count])
    (hrange : InRange (sizeAt input.sizes axis) index) :
    AnswerSame (indexSelectOf (alongArgs input dim index))
      (indexOf (indexArgs input (List.replicate axis none ++ [some index]))) := by
  have hlt := axis_lt hrank haxis
  obtain ⟨positions, hpositions⟩ := exists_resolved hsize hrange
  obtain ⟨output, hpick⟩ := exists_pick hlt hpositions
  refine ⟨output, indexSelectOf_eq hrank haxis ?_ hpositions hpick, ?_⟩
  · rw [hindex]
    exact Nat.le_refl 1
  · exact indexOf_eq (index_of_pick hlt hindex hpositions hpick)

/-- **A list of positions is gathered** if none of them counts from the end, repeated along the
other dimensions. -/
theorem indexSelect_gather_same {index : Tensor Int} {count : Nat} (hindex : index.sizes = [count])
    (hrange : InRange (sizeAt input.sizes axis) index) (hnonneg : ∀ i ∈ index.data, 0 ≤ i) :
    ∃ repeated, repeatAlong index input.sizes axis = .ok repeated ∧
      AnswerSame (indexSelectOf (alongArgs input dim index))
        (gatherOf (alongArgs input dim repeated)) := by
  have hlt := axis_lt hrank haxis
  obtain ⟨positions, hpositions⟩ := exists_resolved hsize hrange
  obtain ⟨output, hpick⟩ := exists_pick hlt hpositions
  obtain ⟨repeated, hrepeated, hshape⟩ := answers_iff.mp (answers_repeatAlong index hlt)
  refine ⟨repeated, hrepeated, output, indexSelectOf_eq hrank haxis ?_ hpositions hpick, ?_⟩
  · rw [hindex]
    exact Nat.le_refl 1
  · exact gatherOf_eq hrank haxis hshape (gather_of_pick hlt hpositions hnonneg hrepeated hpick)

end Agreement

/-- **The rows of a table are an index tensor for its first dimension**, of any shape. -/
theorem embedding_index_same {rows width : Nat} (hinput : input.sizes = [rows, width])
    (hrows : rows < 2 ^ 63) {indices : Tensor Int} (hrange : InRange rows indices) :
    AnswerSame (embeddingOf (embeddingArgs input indices))
      (indexOf (indexArgs input [some indices])) := by
  obtain ⟨output, houtput, -⟩ :=
    answers_iff.mp ((answersIf_embedding hinput).answers ⟨hrows, hrange⟩)
  exact ⟨output, embeddingOf_eq houtput, indexOf_eq (index_of_embedding hinput houtput)⟩

/-- **The picking operators agree element for element** on a tensor with dimensions, along any axis of
it whose size is a signed word and with positions in range: a range of positions, which is refused
unless it goes forward, with the list of them, just if its length and its step make up no more than a
word; one position, or a list of them, with an index tensor behind dimensions without an index; a
list that does not count from the end with the same positions gathered; and the rows of a table with
an index tensor for its first dimension. -/
theorem picking_operators_agree {dim : Int} {axis : Nat} (hrank : input.sizes ≠ [])
    (haxis : resolveAxis input.sizes.length dim = .ok axis)
    (hsize : sizeAt input.sizes axis < 2 ^ 63) :
    (∀ start stop step, step < 2 ^ 63 → if 0 < step then
      ∃ positions, RangePositions (sizeAt input.sizes axis) start stop step positions ∧
        (AnswerSame (sliceOf (sliceArgs input dim start stop step))
            (indexSelectOf (alongArgs input dim (Tensor.vector positions))) ↔
          RangeFits (clampedBound (sizeAt input.sizes axis) (start.getD 0))
            (clampedBound (sizeAt input.sizes axis) (stop.getD (sizeAt input.sizes axis : Nat)))
            step)
      else ∃ failure, sliceOf (sliceArgs input dim start stop step) = .error failure) ∧
    (∀ position : Int, -(sizeAt input.sizes axis : Int) ≤ position ∧
        position < sizeAt input.sizes axis →
      AnswerSame (selectOf (selectArgs input dim position))
        (indexOf (indexArgs input (List.replicate axis none ++ [some (Tensor.scalar position)])))) ∧
    (∀ (index : Tensor Int) (count : Nat), index.sizes = [count] →
        InRange (sizeAt input.sizes axis) index →
      AnswerSame (indexSelectOf (alongArgs input dim index))
        (indexOf (indexArgs input (List.replicate axis none ++ [some index]))) ∧
      ((∀ i ∈ index.data, 0 ≤ i) →
        ∃ repeated, repeatAlong index input.sizes axis = .ok repeated ∧
          AnswerSame (indexSelectOf (alongArgs input dim index))
            (gatherOf (alongArgs input dim repeated)))) ∧
    (∀ rows width, input.sizes = [rows, width] → rows < 2 ^ 63 → ∀ indices, InRange rows indices →
      AnswerSame (embeddingOf (embeddingArgs input indices))
        (indexOf (indexArgs input [some indices]))) := by
  refine ⟨?_, ?_, ?_, ?_⟩
  · intro start stop step hword
    split
    · next hstep => exact slice_indexSelect_same hrank haxis hsize start stop hstep hword
    · next hstep =>
      rw [sliceOf_eq hrank haxis]
      unfold sliceRange
      rw [if_pos (Int.not_lt.mp hstep)]
      exact ⟨_, rfl⟩
  · intro position hposition
    exact select_index_same hrank haxis hsize hposition
  · intro index count hindex hrange
    refine ⟨indexSelect_index_same hrank haxis hsize hindex hrange, ?_⟩
    intro hnonneg
    exact indexSelect_gather_same hrank haxis hsize hindex hrange hnonneg
  · intro rows width hinput hrows indices hrange
    exact embedding_index_same hinput hrows hrange

/-- Columns of a table are picked in all these ways, some of them counted from the end, and so are
its rows. -/
theorem picking_operators_agree_table :
    let table : Tensor Float32 := { sizes := [2, 3], data := #[1, 2, 3, 4, 5, 6], size_data := rfl }
    (∃ positions, RangePositions 3 (some (-3)) none 2 positions ∧
      AnswerSame (sliceOf (sliceArgs table (-1) (some (-3)) none 2))
        (indexSelectOf (alongArgs table (-1) (Tensor.vector positions)))) ∧
    AnswerSame (selectOf (selectArgs table (-1) (-2)))
      (indexOf (indexArgs table [none, some (Tensor.scalar (-2))])) ∧
    AnswerSame (indexSelectOf (alongArgs table (-1) (Tensor.vector [2, 0])))
      (indexOf (indexArgs table [none, some (Tensor.vector [2, 0])])) ∧
    (∃ repeated, repeatAlong (Tensor.vector [2, 0]) [2, 3] 1 = .ok repeated ∧
      AnswerSame (indexSelectOf (alongArgs table (-1) (Tensor.vector [2, 0])))
        (gatherOf (alongArgs table (-1) repeated))) ∧
    AnswerSame (embeddingOf (embeddingArgs table (Tensor.scalar (-1))))
      (indexOf (indexArgs table [some (Tensor.scalar (-1))])) := by
  intro table
  obtain ⟨hslice, hselect, hlist, hrows⟩ :=
    @picking_operators_agree table (-1) 1 (List.cons_ne_nil 2 [3]) rfl
      (by show 3 < 2 ^ 63; decide)
  have hcolumns : ∀ i ∈ (Tensor.vector [2, 0] : Tensor Int).data, 0 ≤ i ∧ i < 3 := by
    show ∀ i ∈ #[2, 0], (0 : Int) ≤ i ∧ i < 3
    decide
  obtain ⟨hindex, hgather⟩ := hlist (Tensor.vector [2, 0]) 2 rfl fun i hi =>
    ⟨Int.le_trans (by decide) (hcolumns i hi).1, (hcolumns i hi).2⟩
  obtain ⟨positions, hpositions, hsame⟩ := hslice (some (-3)) none 2 (by decide)
  have hrange : AnswerSame (sliceOf (sliceArgs table (-1) (some (-3)) none 2))
      (indexSelectOf (alongArgs table (-1) (Tensor.vector positions))) :=
    hsame.mpr fun _ => by decide
  refine ⟨⟨positions, hpositions, hrange⟩, hselect (-2) ⟨by decide, by decide⟩, hindex,
    hgather fun i hi => (hcolumns i hi).1, hrows 2 3 rfl (by decide) _ ?_⟩
  show ∀ i ∈ #[-1], -(2 : Int) ≤ i ∧ i < 2
  decide

/-! ## Oversized dimensions -/

theorem signed_neg {size : Nat} (hsize : 2 ^ 63 ≤ size) (hword : size < 2 ^ 64) :
    signed size < 0 := by
  rw [signed_eq, Int.bmod_def, Int.emod_eq_of_lt (by omega) (by omega)]
  split <;> omega

theorem sliceBound_oversized {size : Nat} (hsize : 2 ^ 63 ≤ size) (hword : size < 2 ^ 64)
    (bound : Int) : sliceBound size bound = .error (.fault .emptyRange) := by
  unfold sliceBound Checked.clamp
  exact if_neg (Int.not_le.mpr (signed_neg hsize hword))

/-- **A range of an oversized dimension breaks down**, whatever its bounds are: they are moved into
the range from zero to the negative number that the size is taken for. -/
theorem sliceOf_oversized {dim : Int} {axis : Nat} (hrank : input.sizes ≠ [])
    (haxis : resolveAxis input.sizes.length dim = .ok axis)
    (hsize : 2 ^ 63 ≤ sizeAt input.sizes axis) (hword : sizeAt input.sizes axis < 2 ^ 64)
    (start stop : Option Int) {step : Int} (hstep : 0 < step) :
    sliceOf (sliceArgs input dim start stop step) = .error (.fault .emptyRange) := by
  rw [sliceOf_eq hrank haxis]
  unfold sliceRange
  rw [if_neg (Int.not_le.mpr hstep), sliceBound_oversized hsize hword]
  rfl

/-- The empty range of a dimension of 2⁶³ entries breaks down, so that it is not picked like the list
of its positions, of which there are none. -/
theorem slice_indexSelect_differ :
    ¬ ∀ (input : Tensor Float32) (dim : Int) (axis : Nat), input.sizes ≠ [] →
      resolveAxis input.sizes.length dim = .ok axis → ∀ start stop step, 0 < step →
        ∃ positions, RangePositions (sizeAt input.sizes axis) start stop step positions ∧
          AnswerSame (sliceOf (sliceArgs input dim start stop step))
            (indexSelectOf (alongArgs input dim (Tensor.vector positions))) := by
  intro h
  have hrank : [2 ^ 63, 0] ≠ ([] : Sizes) := List.cons_ne_nil _ _
  obtain ⟨_, -, _, hslice, -⟩ := h { sizes := [2 ^ 63, 0], data := #[], size_data := rfl } 0 0
    hrank rfl (some 0) (some 0) 1 Int.zero_lt_one
  rw [sliceOf_oversized hrank rfl (Nat.le_refl (2 ^ 63)) (Nat.pow_lt_pow_right (by decide)
    (by decide)) (some 0) (some 0) Int.zero_lt_one] at hslice
  cases hslice

end OpShape.Operator
