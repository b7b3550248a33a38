/-
# `OpShape.Proofs.Operator.Rearrange` — orders and reversals lose nothing.

To bring dimensions into another order, to exchange two of them and to reverse the elements along
some of them moves elements and changes none.  Orders of dimensions act as permutations do; two
dimensions that are exchanged twice are back in place, and so is what is reversed twice.  Dimensions
that are reversed together may be reversed one after the other, in any order.
-/
import OpShape.Proofs.Operator.Order
import OpShape.Proofs.Rule.Reduce
import OpShape.Proofs.Tensor.Reorder

namespace OpShape.Operator

open Rule (NamesOnce SameDim wrapDim)

variable {α : Type}

/-! ## Dimensions by their numbers -/

section Numbers

variable {rank : Nat} {dim again : Int} {dims : List Int}

/-- A scalar counts as a vector where dimensions are numbered. -/
theorem resolveAxis_max (rank : Nat) (dim : Int) :
    resolveAxis (max rank 1) dim = resolveAxis rank dim := by
  cases rank with
  | zero => rfl
  | succ rank => rw [Nat.max_eq_left (Nat.succ_pos rank)]

theorem resolveAxes_max (rank : Nat) (dims : List Int) :
    resolveAxes (max rank 1) dims = resolveAxes rank dims := by
  have hstep : addAxis (max rank 1) = addAxis rank := by
    funext named dim
    unfold addAxis
    rw [resolveAxis_max]
  unfold resolveAxes
  rw [hstep]

theorem resolveAxis_of_inRange (h : Rule.InRange (max rank 1) dim) :
    resolveAxis rank dim = .ok (wrapDim (max rank 1) dim) := by
  rw [← resolveAxis_max]
  exact (Rule.resolveAxis_eq_ok (Nat.le_max_right rank 1)).mpr ⟨h, rfl⟩

theorem resolveAxes_of_namesOnce (h : NamesOnce (max rank 1) dims) :
    resolveAxes rank dims = .ok (dims.map (wrapDim (max rank 1))) := by
  rw [← resolveAxes_max]
  exact (Rule.resolveAxes_eq_ok_iff (Nat.le_max_right rank 1)).mpr ⟨h, rfl⟩

/-- The two numbers of one dimension name the same place. -/
theorem wrapDim_of_sameDim (h : SameDim rank dim again) (hdim : Rule.InRange rank dim) :
    Rule.InRange rank again ∧ wrapDim rank again = wrapDim rank dim := by
  rcases h with rfl | ⟨-, hagain, hsame⟩
  · exact ⟨hdim, rfl⟩
  · refine ⟨hagain, ?_⟩
    unfold Rule.InRange at hdim hagain
    unfold wrapDim
    rcases hsame with rfl | rfl <;> split_ifs <;> omega

/-- **`SameAxes rank dims others`** — both lists name the same dimensions, each of them once: in
whatever order, and each from either end. -/
structure SameAxes (rank : Nat) (dims others : List Int) : Prop where
  named : NamesOnce rank others
  perm : (others.map (wrapDim rank)).Perm (dims.map (wrapDim rank))

end Numbers

/-! ## Calls -/

/-- To do something with some dimensions. -/
def dimsArgs (input : Tensor Float32) (dims : List Int) : TensorArgs where
  values := [("self", .tensor (.float input)), ("dims", .list (dims.map .int))]

/-- To exchange two dimensions. -/
def transposeArgs (input : Tensor Float32) (dim0 dim1 : Int) : TensorArgs where
  values := [("self", .tensor (.float input)), ("dim0", .int dim0), ("dim1", .int dim1)]

/-- To do something with a tensor alone. -/
def selfArgs (input : Tensor Float32) : TensorArgs where
  values := [("self", .tensor (.float input))]

theorem ints_dimsArgs (input : Tensor Float32) (dims : List Int) :
    (dimsArgs input dims).ints "dims" = .ok dims :=
  OpShape.ints_eq_ok "dims" rfl

/-! ## Orders -/

section Orders

variable {input output : Tensor Float32}

/-- The call for an order puts the dimensions into it, whichever way they are named. -/
theorem permuteOf_eq {dims : List Int} {order : List Nat}
    (hnames : NamesOnce input.sizes.length dims)
    (hdims : dims.map (wrapDim input.sizes.length) = order)
    (horder : order.Perm (List.range input.sizes.length)) :
    permuteOf (dimsArgs input dims) = (do one (← input.permute order)) := by
  have hself : (dimsArgs input dims).tensor "self" = .ok (.float input) := rfl
  have hlength : dims.length = (RealTensor.float input).rank := by
    show dims.length = input.sizes.length
    rw [← length_of_perm_range horder, ← hdims, List.length_map]
  have hresolved : resolveAxes input.sizes.length dims = .ok order := by
    obtain hscalar | hpos := Nat.eq_zero_or_pos input.sizes.length
    · -- A scalar has no dimension that could be named.
      have hnone : dims = [] := List.eq_nil_of_length_eq_zero (hlength.trans hscalar)
      subst hnone
      exact hdims ▸ rfl
    · exact (Rule.resolveAxes_eq_ok_iff hpos).mpr ⟨hnames, hdims.symm⟩
  unfold permuteOf
  rw [hself, lift_ok_operator, ok_bind, ints_dimsArgs, lift_ok_operator, ok_bind,
    if_neg (not_not.mpr hlength)]
  show (do
    let order ← resolveAxes input.sizes.length dims
    one (← input.permute order)) = _
  rw [hresolved, ok_bind]

/-- **`Permutes input order output`** — the order takes one tensor to the other, and so does the
call for it, from whichever end its dimensions are counted. -/
structure Permutes (input : Tensor Float32) (order : List Nat) (output : Tensor Float32) : Prop where
  permute : (input.permute order : OpResult (Tensor Float32)) = .ok output
  call : ∀ dims, NamesOnce input.sizes.length dims →
    dims.map (wrapDim input.sizes.length) = order →
      permuteOf (dimsArgs input dims) = .ok (.one (.float output))

theorem permutes_of_permute {order : List Nat} (horder : order.Perm (List.range input.sizes.length))
    (h : (input.permute order : OpResult (Tensor Float32)) = .ok output) :
    Permutes input order output where
  permute := h
  call dims hnames hdims := by
    rw [permuteOf_eq hnames hdims horder, h]
    rfl

/-- Every order takes a tensor to one of the same rank. -/
theorem exists_permutes {order : List Nat} (horder : order.Perm (List.range input.sizes.length)) :
    ∃ output, Permutes input order output ∧ output.sizes.length = input.sizes.length := by
  obtain ⟨output, houtput, hsizes⟩ := answers_iff.mp
    (Tensor.answers_permute horder : Answers _ (input.permute order : OpResult _))
  have hsizes' : output.sizes = order.map (sizeAt input.sizes) := hsizes
  refine ⟨output, permutes_of_permute horder houtput, ?_⟩
  rw [hsizes', List.length_map, length_of_perm_range horder]

theorem permutes_range (input : Tensor Float32) :
    Permutes input (List.range input.sizes.length) input :=
  permutes_of_permute (List.Perm.refl _) (Tensor.permute_range input)

/-- **One order after another is their composition.** -/
theorem permutes_composed {first second : List Nat}
    (hfirst : first.Perm (List.range input.sizes.length))
    (hsecond : second.Perm (List.range input.sizes.length)) :
    ∃ middle output, Permutes input first middle ∧ Permutes middle second output ∧
      Permutes input (composedOrder first second) output := by
  obtain ⟨middle, hmiddle, hrank⟩ := exists_permutes hfirst
  have hsecond' : second.Perm (List.range middle.sizes.length) := hrank ▸ hsecond
  obtain ⟨output, houtput, -⟩ := exists_permutes hsecond'
  refine ⟨middle, output, hmiddle, houtput,
    permutes_of_permute (composedOrder_perm hfirst hsecond) ?_⟩
  exact (Tensor.permute_of_permute hfirst hsecond hmiddle.permute).mp houtput.permute

/-- **The inverse of an order leads back.** -/
theorem permutes_inverse {order : List Nat} (horder : order.Perm (List.range input.sizes.length)) :
    ∃ output, Permutes input order output ∧ Permutes output (inverseOrder order) input := by
  obtain ⟨output, houtput, hrank⟩ := exists_permutes horder
  have hinverse := inverseOrder_perm horder
  refine ⟨output, houtput, permutes_of_permute (hrank ▸ hinverse) ?_⟩
  exact Tensor.permute_back horder hinverse (composedOrder_inverseOrder horder) houtput.permute

end Orders

/-! ## Two dimensions -/

section Exchange

variable {input : Tensor Float32} {rank first second : Nat}

/-- Two dimensions that are exchanged twice are back in place. -/
theorem composedOrder_exchange (hfirst : first < rank) (hsecond : second < rank) :
    composedOrder (exchange rank first second) (exchange rank first second) = List.range rank := by
  have hget : ∀ dim < rank, (exchange rank first second)[dim]?.getD 0 =
      if dim = first then second else if dim = second then first else dim := by
    intro dim hdim
    unfold exchange
    rw [List.getElem?_map, List.getElem?_range hdim]
    rfl
  unfold composedOrder
  conv_lhs =>
    arg 2
    unfold exchange
  rw [List.map_map]
  refine (List.map_congr_left ?_).trans (List.map_id _)
  intro dim hdim
  have hlt : dim < rank := List.mem_range.mp hdim
  rw [Function.comp_apply, id]
  split_ifs with h1 h2
  · rw [hget second hsecond]
    split_ifs <;> omega
  · rw [hget first hfirst, if_pos rfl, h2]
  · rw [hget dim hlt, if_neg h1, if_neg h2]

theorem transposeOf_eq {dim0 dim1 : Int} (hdim0 : Rule.InRange (max input.sizes.length 1) dim0)
    (hdim1 : Rule.InRange (max input.sizes.length 1) dim1) :
    transposeOf (transposeArgs input dim0 dim1) =
      if input.sizes.length = 0 then one input
      else (do one (← input.permute (exchange input.sizes.length
        (wrapDim (max input.sizes.length 1) dim0) (wrapDim (max input.sizes.length 1) dim1)))) := by
  have hself : floatArg (transposeArgs input dim0 dim1) "self" = .ok input := rfl
  have hfirst : (transposeArgs input dim0 dim1).int "dim0" = .ok dim0 := rfl
  have hsecond : (transposeArgs input dim0 dim1).int "dim1" = .ok dim1 := rfl
  unfold transposeOf
  rw [hself, ok_bind, hfirst, lift_ok_operator, ok_bind, resolveAxis_of_inRange hdim0, ok_bind,
    hsecond, lift_ok_operator, ok_bind, resolveAxis_of_inRange hdim1, ok_bind]

/-- **Two dimensions that are exchanged twice** leave the tensor as it was, whichever way they are
named. -/
theorem transpose_twice {dim0 dim1 again0 again1 : Int}
    (hdim0 : Rule.InRange (max input.sizes.length 1) dim0)
    (hdim1 : Rule.InRange (max input.sizes.length 1) dim1)
    (hagain0 : SameDim (max input.sizes.length 1) dim0 again0)
    (hagain1 : SameDim (max input.sizes.length 1) dim1 again1) :
    ∃ output, transposeOf (transposeArgs input dim0 dim1) = .ok (.one (.float output)) ∧
      transposeOf (transposeArgs output again0 again1) = .ok (.one (.float input)) := by
  obtain ⟨hrange0, hwrap0⟩ := wrapDim_of_sameDim hagain0 hdim0
  obtain ⟨hrange1, hwrap1⟩ := wrapDim_of_sameDim hagain1 hdim1
  by_cases hscalar : input.sizes.length = 0
  · refine ⟨input, ?_, ?_⟩
    · rw [transposeOf_eq hdim0 hdim1, if_pos hscalar]
      rfl
    · rw [transposeOf_eq hrange0 hrange1, if_pos hscalar]
      rfl
  · have hrank : max input.sizes.length 1 = input.sizes.length := by omega
    rw [hrank] at hdim0 hdim1 hrange0 hrange1 hwrap0 hwrap1
    have hfirst := Rule.wrapDim_lt hdim0
    have hsecond := Rule.wrapDim_lt hdim1
    have hperm := exchange_perm hfirst hsecond
    obtain ⟨output, houtput, hsame⟩ := exists_permutes hperm
    refine ⟨output, ?_, ?_⟩
    · rw [transposeOf_eq (hrank.symm ▸ hdim0) (hrank.symm ▸ hdim1), if_neg hscalar, hrank,
        houtput.permute]
      rfl
    · have hback := Tensor.permute_back hperm hperm (composedOrder_exchange hfirst hsecond)
        houtput.permute
      rw [← hsame] at hrank hscalar hrange0 hrange1
      rw [transposeOf_eq (hrank.symm ▸ hrange0) (hrank.symm ▸ hrange1), if_neg hscalar, hrank, hsame,
        hwrap0, hwrap1, hback]
      rfl

/-- **A matrix that is transposed twice** is as it was; what has fewer dimensions stays at once. -/
theorem matrixTranspose_twice (hrank : input.sizes.length ≤ 2) :
    ∃ output, matrixTransposeOf (selfArgs input) = .ok (.one (.float output)) ∧
      matrixTransposeOf (selfArgs output) = .ok (.one (.float input)) := by
  have hself : ∀ tensor, floatArg (selfArgs tensor) "self" = .ok tensor := fun _ => rfl
  by_cases hmatrix : input.sizes.length = 2
  · have hperm : [1, 0].Perm (List.range input.sizes.length) := by
      rw [hmatrix]
      exact List.Perm.swap 0 1 []
    obtain ⟨output, houtput, hsame⟩ := exists_permutes hperm
    have hback := Tensor.permute_back hperm hperm (by rw [hmatrix]; rfl) houtput.permute
    refine ⟨output, ?_, ?_⟩
    · unfold matrixTransposeOf
      rw [hself, ok_bind, hmatrix]
      simp only [houtput.permute, ok_bind]
      rfl
    · unfold matrixTransposeOf
      rw [hself, ok_bind, hsame, hmatrix]
      simp only [hback, ok_bind]
      rfl
  · refine ⟨input, ?_, ?_⟩ <;>
    · unfold matrixTransposeOf
      rw [hself, ok_bind]
      obtain hzero | hone : input.sizes.length = 0 ∨ input.sizes.length = 1 := by omega
      · rw [hzero]
        rfl
      · rw [hone]
        rfl

end Exchange

/-! ## Reversals -/

section Reversals

variable {input middle output : Tensor α} {axes others front back : List Nat} {sizes : Sizes}
  {index : List Nat}

theorem getElem?_indexFromEnd (axes : List Nat) (hlength : index.length = sizes.length) (dim : Nat) :
    (indexFromEnd axes sizes index)[dim]? =
      index[dim]?.map fun i => if axes.contains dim then sizeAt sizes dim - 1 - i else i := by
  unfold indexFromEnd sizeAt
  by_cases hdim : dim < index.length
  · have hdim' : dim < sizes.length := hlength ▸ hdim
    have hzip : (index.zip sizes)[dim]? = some (index[dim], sizes[dim]) := by
      rw [List.getElem?_zip_eq_some]
      exact ⟨List.getElem?_eq_getElem hdim, List.getElem?_eq_getElem hdim'⟩
    rw [List.getElem?_map, List.getElem?_zipIdx, hzip, List.getElem?_eq_getElem hdim,
      List.getElem?_eq_getElem hdim', Nat.zero_add]
    rfl
  · have hnone : (index.zip sizes)[dim]? = none := by
      rw [List.getElem?_eq_none_iff, List.length_zip]
      omega
    rw [List.getElem?_map, List.getElem?_zipIdx, hnone, List.getElem?_eq_none (Nat.not_lt.mp hdim)]
    rfl

/-- Only which axes are reversed matters, not in which order they are listed. -/
theorem indexFromEnd_congr (h : ∀ axis, axis ∈ axes ↔ axis ∈ others) :
    indexFromEnd axes sizes index = indexFromEnd others sizes index := by
  have hcontains : ∀ axis, axes.contains axis = others.contains axis := by
    intro axis
    rw [Bool.eq_iff_iff, List.contains_iff_mem, List.contains_iff_mem, h]
  unfold indexFromEnd
  simp only [hcontains]

/-- A coordinate that is counted from the end twice is as it was. -/
theorem indexFromEnd_twice (hinside : Inside index sizes) :
    indexFromEnd axes sizes (indexFromEnd axes sizes index) = index := by
  apply List.ext_getElem?
  intro dim
  rw [getElem?_indexFromEnd axes (inside_indexFromEnd axes hinside).length,
    getElem?_indexFromEnd axes hinside.length, Option.map_map]
  cases hi : index[dim]? with
  | none => rfl
  | some i =>
    have hlt := hinside.getElem_lt hi
    rw [Option.map_some, Function.comp_apply]
    congr 1
    split
    · omega
    · rfl

/-- Coordinates are counted from the end along one part of the axes after the other. -/
theorem indexFromEnd_append (hdisjoint : ∀ axis ∈ front, axis ∉ back)
    (hinside : Inside index sizes) :
    indexFromEnd front sizes (indexFromEnd back sizes index) =
      indexFromEnd (front ++ back) sizes index := by
  apply List.ext_getElem?
  intro dim
  rw [getElem?_indexFromEnd front (inside_indexFromEnd back hinside).length,
    getElem?_indexFromEnd back hinside.length, getElem?_indexFromEnd _ hinside.length,
    Option.map_map]
  congr 1
  funext i
  rw [Function.comp_apply, List.contains_append]
  by_cases hfront : dim ∈ front
  · have hback : back.contains dim = false := by simpa using hdisjoint dim hfront
    rw [hback, Bool.or_false]
    rfl
  · have hnot : front.contains dim = false := by simpa using hfront
    rw [hnot, Bool.false_or]
    rfl

theorem indexFromEnd_nil (hinside : Inside index sizes) : indexFromEnd [] sizes index = index := by
  apply List.ext_getElem?
  intro dim
  rw [getElem?_indexFromEnd [] hinside.length]
  exact Option.map_id'

/-- **What a reversed tensor holds**: at each index the element that is counted from the other
end. -/
theorem flip_eq_ok : flip input axes = .ok output ↔
    output.sizes = input.sizes ∧ ∀ index, Inside index input.sizes →
      (input.at? (indexFromEnd axes input.sizes index) : OpResult α) = output.at? index :=
  Tensor.ofIndices_eq_ok

theorem exists_flip (input : Tensor α) (axes : List Nat) : ∃ output, flip input axes = .ok output := by
  have hanswers : Answers (Tensor.HasSizes input.sizes) (flip input axes) :=
    Tensor.answers_ofIndices fun _ hinside => Tensor.answers_at? (inside_indexFromEnd axes hinside)
  obtain ⟨output, houtput, -⟩ := answers_iff.mp hanswers
  exact ⟨output, houtput⟩

theorem flip_congr (h : ∀ axis, axis ∈ axes ↔ axis ∈ others) :
    flip input axes = flip input others := by
  unfold flip
  congr 1
  funext index
  rw [indexFromEnd_congr h]

/-- A scalar has no axis to reverse. -/
theorem flip_of_scalar (hscalar : input.sizes = []) (axes others : List Nat) :
    flip input axes = flip input others := by
  unfold flip
  rw [hscalar]
  congr 1
  funext index
  unfold indexFromEnd
  rw [List.zip_nil_right]
  rfl

theorem flip_nil (input : Tensor α) : flip input [] = .ok input := by
  refine flip_eq_ok.mpr ⟨rfl, fun index hinside => ?_⟩
  rw [indexFromEnd_nil hinside]

/-- **What is reversed twice** is as it was. -/
theorem flip_twice (h : flip input axes = .ok output) : flip output axes = .ok input := by
  obtain ⟨hsizes, hreads⟩ := flip_eq_ok.mp h
  refine flip_eq_ok.mpr ⟨hsizes.symm, fun index hinside => ?_⟩
  rw [hsizes] at hinside ⊢
  rw [← hreads _ (inside_indexFromEnd axes hinside), indexFromEnd_twice hinside]

/-- **Axes are reversed one part after the other.** -/
theorem flip_of_flip (hdisjoint : ∀ axis ∈ front, axis ∉ back)
    (hmiddle : flip input front = .ok middle) :
    flip middle back = .ok output ↔ flip input (front ++ back) = .ok output := by
  obtain ⟨hsizes, hreads⟩ := flip_eq_ok.mp hmiddle
  rw [flip_eq_ok, flip_eq_ok, hsizes]
  apply and_congr_right
  intro _
  apply forall₂_congr
  intro index hinside
  rw [← hreads _ (inside_indexFromEnd back hinside), indexFromEnd_append hdisjoint hinside]

end Reversals

/-! ## Calls that reverse -/

section Flips

variable {input output : Tensor Float32} {dims others : List Int}

/-- The call reverses the axes that are named, also those that a scalar is taken to have. -/
theorem flipOf_eq (hnames : NamesOnce (max input.sizes.length 1) dims) :
    flipOf (dimsArgs input dims) =
      (do one (← flip input (dims.map (wrapDim (max input.sizes.length 1))))) := by
  have hself : floatArg (dimsArgs input dims) "self" = .ok input := rfl
  unfold flipOf flipAxes
  rw [hself, ok_bind, ints_dimsArgs, lift_ok_operator, ok_bind]
  by_cases hscalar : input.sizes.length = 0
  · have hnil : input.sizes = [] := List.eq_nil_of_length_eq_zero hscalar
    have hresolved : dims.mapM (resolveAxis 0) = .ok (dims.map (wrapDim 1)) := by
      rw [mapM_eq_ok, List.forall₂_map_right_iff, List.forall₂_same]
      intro dim hdim
      rw [hscalar] at hnames
      exact resolveAxis_of_inRange (hnames.inRange dim hdim)
    -- Distinct places below one are at most one place.
    have hfew : ¬ 1 < dims.length := by
      rw [hscalar] at hnames
      have hsub : dims.map (wrapDim 1) ⊆ [0] := by
        intro place hplace
        obtain ⟨dim, hdim, rfl⟩ := List.mem_map.mp hplace
        have hlt : wrapDim 1 dim < 1 := Rule.wrapDim_lt (hnames.inRange dim hdim)
        rw [Nat.lt_one_iff.mp hlt]
        exact List.mem_singleton_self 0
      have hle := (hnames.nodup.subperm hsub).length_le
      rw [List.length_map] at hle
      exact Nat.not_lt.mpr hle
    rw [if_pos hscalar, hresolved, ok_bind, if_neg hfew, ok_bind, flip_of_scalar hnil]
  · rw [if_neg hscalar, resolveAxes_of_namesOnce hnames, ok_bind]

/-- **`FlipsOneByOne input dims output`** — one call for each of the dimensions, one after the other,
takes one tensor to the other. -/
inductive FlipsOneByOne : Tensor Float32 → List Int → Tensor Float32 → Prop
  | done (input : Tensor Float32) : FlipsOneByOne input [] input
  | step {input middle output : Tensor Float32} {dim : Int} {dims : List Int} :
    flipOf (dimsArgs input [dim]) = .ok (.one (.float middle)) →
      FlipsOneByOne middle dims output → FlipsOneByOne input (dim :: dims) output

/-- **Dimensions that are reversed together** may be reversed one after the other. -/
theorem flipsOneByOne_of_flip (hnames : NamesOnce (max input.sizes.length 1) dims)
    (h : flip input (dims.map (wrapDim (max input.sizes.length 1))) = .ok output) :
    FlipsOneByOne input dims output := by
  induction dims generalizing input with
  | nil =>
    obtain rfl : input = output := Except.ok.inj ((flip_nil input).symm.trans h)
    exact .done input
  | cons dim dims ih =>
    obtain ⟨hdim, hdims⟩ := List.forall_mem_cons.mp hnames.inRange
    obtain ⟨hnew, hnodup⟩ := List.nodup_cons.mp hnames.nodup
    have hone : NamesOnce (max input.sizes.length 1) [dim] :=
      ⟨by simpa using hdim, List.nodup_singleton _⟩
    obtain ⟨middle, hmiddle⟩ := exists_flip input [wrapDim (max input.sizes.length 1) dim]
    obtain ⟨hsizes, -⟩ := flip_eq_ok.mp hmiddle
    have hrest : NamesOnce (max middle.sizes.length 1) dims := by
      rw [hsizes]
      exact ⟨hdims, hnodup⟩
    refine .step ?_ (ih hrest ?_)
    · rw [flipOf_eq hone]
      show (do one (← flip input [wrapDim (max input.sizes.length 1) dim])) = _
      rw [hmiddle]
      rfl
    · rw [hsizes]
      refine (flip_of_flip ?_ hmiddle).mpr h
      intro axis haxis
      rw [List.mem_singleton.mp haxis]
      exact hnew

/-- **Reversals are undone by themselves and split into single ones**, in any order and whichever
way the dimensions are named. -/
theorem flip_undone (hnames : NamesOnce (max input.sizes.length 1) dims) :
    ∃ output, flipOf (dimsArgs input dims) = .ok (.one (.float output)) ∧
      ∀ others, SameAxes (max input.sizes.length 1) dims others →
        flipOf (dimsArgs output others) = .ok (.one (.float input)) ∧
          FlipsOneByOne input others output := by
  obtain ⟨output, houtput⟩ := exists_flip input (dims.map (wrapDim (max input.sizes.length 1)))
  obtain ⟨hsizes, -⟩ := flip_eq_ok.mp houtput
  refine ⟨output, ?_, ?_⟩
  · rw [flipOf_eq hnames, houtput]
    rfl
  · intro others hothers
    have hsame : ∀ tensor : Tensor Float32,
        flip tensor (others.map (wrapDim (max input.sizes.length 1))) =
          flip tensor (dims.map (wrapDim (max input.sizes.length 1))) :=
      fun tensor => flip_congr fun _ => hothers.perm.mem_iff
    refine ⟨?_, flipsOneByOne_of_flip hothers.named ((hsame input).trans houtput)⟩
    rw [flipOf_eq (hsizes.symm ▸ hothers.named), hsizes, hsame, flip_twice houtput]
    rfl

end Flips

/-! ## Nothing is lost -/

/-- **Orders and reversals are lossless**, of a tensor of any rank and sizes, with dimensions
counted from either end: orders of dimensions act as permutations do, and exchanges, transpositions
and reversals undo themselves. -/
theorem rearrangements_lossless (input : Tensor Float32) :
    Permutes input (List.range input.sizes.length) input ∧
    (∀ first second, first.Perm (List.range input.sizes.length) →
      second.Perm (List.range input.sizes.length) →
        ∃ middle output, Permutes input first middle ∧ Permutes middle second output ∧
          Permutes input (composedOrder first second) output) ∧
    (∀ order, order.Perm (List.range input.sizes.length) →
      ∃ output, Permutes input order output ∧ Permutes output (inverseOrder order) input) ∧
    (∀ dim0 dim1 again0 again1, Rule.InRange (max input.sizes.length 1) dim0 →
      Rule.InRange (max input.sizes.length 1) dim1 →
      SameDim (max input.sizes.length 1) dim0 again0 →
      SameDim (max input.sizes.length 1) dim1 again1 →
        ∃ output, transposeOf (transposeArgs input dim0 dim1) = .ok (.one (.float output)) ∧
          transposeOf (transposeArgs output again0 again1) = .ok (.one (.float input))) ∧
    (input.sizes.length ≤ 2 →
      ∃ output, matrixTransposeOf (selfArgs input) = .ok (.one (.float output)) ∧
        matrixTransposeOf (selfArgs output) = .ok (.one (.float input))) ∧
    (∀ dims, NamesOnce (max input.sizes.length 1) dims →
      ∃ output, flipOf (dimsArgs input dims) = .ok (.one (.float output)) ∧
        ∀ others, SameAxes (max input.sizes.length 1) dims others →
          flipOf (dimsArgs output others) = .ok (.one (.float input)) ∧
            FlipsOneByOne input others output) := by
  refine ⟨permutes_range input, ?_, ?_, ?_, matrixTranspose_twice, ?_⟩
  · intro first second hfirst hsecond
    exact permutes_composed hfirst hsecond
  · intro order horder
    exact permutes_inverse horder
  · intro dim0 dim1 again0 again1 hdim0 hdim1 hagain0 hagain1
    exact transpose_twice hdim0 hdim1 hagain0 hagain1
  · intro dims hnames
    exact flip_undone hnames

/-- A block is turned through all three of its dimensions and back, two of them are exchanged, and two
are reversed, each time with some of them counted from the end. -/
theorem rearrangements_lossless_block :
    let block : Tensor Float32 :=
      { sizes := [2, 1, 3], data := #[1, 2, 3, 4, 5, 6], size_data := rfl }
    (∃ output, permuteOf (dimsArgs block [1, -1, 0]) = .ok (.one (.float output)) ∧
      permuteOf (dimsArgs output [-1, 0, 1]) = .ok (.one (.float block))) ∧
    (∃ middle output, Permutes block [1, 2, 0] middle ∧ Permutes middle [0, 2, 1] output ∧
      Permutes block [1, 0, 2] output) ∧
    (∃ output, transposeOf (transposeArgs block 0 (-1)) = .ok (.one (.float output)) ∧
      transposeOf (transposeArgs output (-3) 2) = .ok (.one (.float block))) ∧
    ∃ output, flipOf (dimsArgs block [0, -1]) = .ok (.one (.float output)) ∧
      flipOf (dimsArgs output [2, 0]) = .ok (.one (.float block)) ∧
      FlipsOneByOne block [2, 0] output := by
  intro block
  have hcycle : [1, 2, 0].Perm (List.range block.sizes.length) := by decide
  have hswap : [0, 2, 1].Perm (List.range block.sizes.length) := by decide
  obtain ⟨-, hcomposed, hinverse, htranspose, -, hflip⟩ := rearrangements_lossless block
  obtain ⟨turned, hturned, hback⟩ := hinverse [1, 2, 0] hcycle
  have hrank : turned.sizes.length = 3 := by
    obtain ⟨hsizes, -⟩ := (Tensor.permute_eq_ok hcycle).mp hturned.permute
    rw [hsizes]
    rfl
  obtain ⟨flipped, hflipped, hagain⟩ := hflip [0, -1] ⟨by decide, by decide⟩
  refine ⟨⟨turned, hturned.call _ ⟨by decide, by decide⟩ rfl, hback.call _ ?_ ?_⟩,
    hcomposed [1, 2, 0] [0, 2, 1] hcycle hswap, ?_, flipped, hflipped, ?_⟩
  · rw [hrank]
    exact ⟨by decide, by decide⟩
  · rw [hrank]
    rfl
  · exact htranspose 0 (-1) (-3) 2 (by decide) (by decide) (.inr (by decide)) (.inr (by decide))
  · exact hagain [2, 0] ⟨⟨by decide, by decide⟩, by decide⟩

end OpShape.Operator
