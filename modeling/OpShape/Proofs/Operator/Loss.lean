/-
# `OpShape.Proofs.Operator.Loss` — the loss and its slope beside their rules.

The two sides accept the same ranks of scores and targets, and the same weights and reductions.  The
operators then read the score of each item in a row of its own.  A batch has such rows; a vector of
scores is a single row, for which a target per class is accepted nevertheless.  So the operators
follow their rules exactly where the targets of a vector are those of one sample.
-/
import OpShape.Builtin.Loss
import OpShape.Operator.Loss
import OpShape.Proofs.Operator.Index

namespace OpShape.Operator

open Tensor (HasSizes fetch_answers ofData_eq_ok)

/-! ## Ranks and classes -/

/-- Scores and targets that go together: the scores of a single sample, with one target or with as
many as there are classes, and the scores of a batch.  The first number is the size that the targets
have to match, the second one counts the classes. -/
inductive ClassRanks : Sizes → Sizes → Nat → Nat → Prop
  | sample (classes : Nat) : ClassRanks [classes] [] classes classes
  | row (classes : Nat) : ClassRanks [classes] [classes] classes classes
  | batch (items classes : Nat) : ClassRanks [items, classes] [items] items classes

/-- **The two sides accept the same ranks.** -/
theorem lossClasses_alike (input target : Sizes) :
    Alike (fun operands classes => operands.2 = classes ∧ ClassRanks input target operands.1 classes)
      (Builtin.lossOperands input target) (lossClasses input target) := by
  unfold Builtin.lossOperands lossClasses
  match input, target with
  | [], _ => exact alike_error_error
  | [classes], [] => exact ⟨rfl, .sample classes⟩
  | [classes], [items] =>
    by_cases hitems : items = classes
    · subst hitems
      simpa [Checked.get, Checked.sub] using ClassRanks.row items
    · simp [hitems, Checked.get, Rule.incompatible, incompatible, Checked.refuse]
  | [classes], _ :: _ :: _ => simp [Rule.wrongRank, invalid, Checked.refuse]
  | [items, classes], [] =>
    simp [Checked.get, Rule.incompatible, incompatible, Checked.refuse]
  | [items, classes], [count] =>
    by_cases hcount : count = items
    · subst hcount
      simpa [Checked.get, Checked.sub] using ClassRanks.batch count classes
    · simp [hcount, Checked.get, Rule.incompatible, incompatible, Checked.refuse]
  | [items, classes], _ :: _ :: _ => simp [Rule.wrongRank, invalid, Checked.refuse]
  | _ :: _ :: _ :: _, _ => exact alike_error_error

theorem ClassRanks.classes_eq {input target : Sizes} {first classes : Nat}
    (h : ClassRanks input target first classes) : input.getLast? = some classes := by
  cases h <;> rfl

/-- A batch has as many losses as targets. -/
theorem ClassRanks.itemSizes_eq {input target : Sizes} {first classes : Nat}
    (h : ClassRanks input target first classes) :
    (if input.length = 2 then [first] else []) =
      if input.length == 2 then [elementCount target] else [] := by
  cases h <;> simp

/-- A vector of scores is a single row. -/
theorem ClassRanks.elementCount_vector {input target : Sizes} {first classes : Nat}
    (h : ClassRanks input target first classes) (hvector : input.length = 1) :
    elementCount input = classes := by
  cases h with
  | sample => simp
  | row => simp
  | batch => simp at hvector

/-- The score of a class is there in each row of a batch, and in the first row of a vector. -/
theorem ClassRanks.place_lt {input target : Sizes} {first classes row place : Nat}
    (h : ClassRanks input target first classes) (hrow : row < elementCount target)
    (hplace : place < classes) (hvector : input.length = 1 → row = 0) :
    row * classes + place < elementCount input := by
  cases h with
  | sample =>
    rw [hvector rfl]
    simpa using hplace
  | row =>
    rw [hvector rfl]
    simpa using hplace
  | batch items =>
    simp only [elementCount_cons, elementCount_nil, Nat.mul_one] at hrow ⊢
    exact row_add_lt hrow hplace

/-! ## Targets -/

/-- Every target is ignored or names a class, of which there are as many as scores in a row. -/
def NamesClasses (scores : Sizes) (ignored : Int) (target : Tensor Int) : Prop :=
  ∀ classes, scores.getLast? = some classes →
    ∀ code ∈ target.data, code = ignored ∨ (0 ≤ code ∧ code < classes)

/-- An item is what a target says: none if that is ignored, and else one of the classes. -/
structure IsItem (classes : Nat) (ignored code : Int) (item : LossTarget) : Prop where
  none : item = none ↔ code = ignored
  class_lt : ∀ target ∈ item, target.1 < classes

theorem answersIf_lossTarget {weights : Option (Tensor Float32)} {classes : Nat}
    (hweights : ∀ tensor ∈ weights, elementCount tensor.sizes = classes) (ignored code : Int) :
    AnswersIf (code = ignored ∨ (0 ≤ code ∧ code < classes)) (IsItem classes ignored code)
      (lossTarget weights classes ignored code) := by
  unfold lossTarget
  by_cases hignored : code = ignored
  · rw [if_pos hignored]
    exact ⟨by simp [hignored], by simp⟩
  rw [if_neg hignored]
  by_cases hout : code < 0 ∨ (classes : Int) ≤ code
  · rw [if_pos hout]
    rintro (hsame | hin)
    · exact hignored hsame
    · omega
  rw [if_neg hout]
  have hclass : code.toNat < classes := by omega
  cases weights with
  | none => exact ⟨by simp [hignored], by simpa using hclass⟩
  | some tensor =>
    have hthere : code.toNat < tensor.data.size := by
      rw [tensor.size_data, hweights tensor rfl]
      exact hclass
    simp only [Checked.fetch_of_lt hthere, ok_bind]
    exact ⟨by simp [hignored], by simpa using hclass⟩

/-! ## Reductions -/

/-- The two sides know the same reductions; only without one is there a loss per item. -/
theorem reduction_alike (code : Int) (batched : Sizes) :
    Alike (fun sizes reduction => (reduction = .none ↔ code = 0) ∧
        sizes = if reduction = .none then batched else [])
      (match code with
        | 0 => .ok batched
        | 1 | 2 => .ok []
        | _ => Rule.invalid "invalid reduction" : ShapeResult Sizes)
      (LossReduction.ofCode code) := by
  unfold LossReduction.ofCode
  split
  · simp
  · simp
  · simp
  · next h0 h1 h2 => simp_all [Rule.invalid, invalid, Checked.refuse]

/-! ## Operands -/

/-- What the operator makes of the operands of a loss, beside the sizes of the loss. -/
structure LossMatches (input : Sizes) (target : Tensor Int) (ignored code : Int) (out : Sizes)
    (loss : Loss) : Prop where
  sizes : loss.input.sizes = input
  ranks : ∃ first, ClassRanks input target.sizes first loss.classes
  items : List.Forall₂ (IsItem loss.classes ignored) target.data.toList loss.targets
  reduction : loss.reduction = .none ↔ code = 0
  out : out = if loss.reduction = .none then loss.itemSizes else []

section Operands

variable {bound : TensorArgs} {input target : RealTensor} {weight : Option RealTensor}
variable {code ignored : Int}

/-- Weights are refused alike if there is not one per class. -/
theorem checkClassWeights_cases (weight : Option RealTensor) (classes : Nat) :
    let refused := (weight.map RealTensor.toFloats).any fun weights =>
      1 < weights.sizes.length || elementCount weights.sizes != classes
    (refused = true ∧ ∃ failure,
        Builtin.checkClassWeights (weight.map RealTensor.sizes) classes = .error failure) ∨
      (¬ refused = true ∧ Builtin.checkClassWeights (weight.map RealTensor.sizes) classes = .ok () ∧
        ∀ weights ∈ weight.map RealTensor.toFloats, elementCount weights.sizes = classes) := by
  unfold Builtin.checkClassWeights
  cases weight with
  | none => simp
  | some tensor =>
    by_cases hmisfit : 1 < tensor.sizes.length ∨ elementCount tensor.sizes ≠ classes
    · refine .inl ⟨by simpa using hmisfit, ?_⟩
      simp [hmisfit, Rule.incompatible, Checked.refuse]
    · refine .inr ⟨by simpa using hmisfit, by simp [hmisfit], ?_⟩
      intro weights hweights
      obtain rfl : tensor.toFloats = weights := Option.some.inj hweights
      rw [tensor.sizes_toFloats]
      by_contra hcount
      exact hmisfit (.inr hcount)

variable (hinput : bound.tensor "self" = .ok input) (htarget : bound.tensor "target" = .ok target)
  (hweight : bound.optTensor "weight" = .ok weight) (hcode : bound.int "reduction" = .ok code)
  (hignored : bound.int "ignore_index" = .ok ignored)
include hinput htarget hweight hcode hignored

theorem lossOperands_alike :
    AlikeIf (NamesClasses input.sizes ignored (toInts target))
      (LossMatches input.sizes (toInts target) ignored code)
      (Builtin.lossShape (bound.map RealTensor.sizes)) (Loss.ofArgs bound) := by
  unfold Builtin.lossShape Loss.ofArgs
  rw [tensor_sizes "self" hinput, tensor_sizes "target" htarget, BoundArgs.optTensor_map, hweight,
    BoundArgs.int_map, hcode, hignored, floatArg_eq "self" hinput, intArg_eq "target" htarget,
    optFloatArg_eq "weight" hweight]
  simp only [lift_ok, lift_ok_operator, ok_bind, Except.map]
  rw [input.sizes_toFloats, sizes_toInts]
  apply (lossClasses_alike input.sizes target.sizes).bind_if
  rintro ⟨first, classes⟩ _ ⟨rfl, hranks⟩
  dsimp only at hranks ⊢
  rcases checkClassWeights_cases weight classes with
    ⟨hrefused, failure, hcheck⟩ | ⟨hrefused, hcheck, hweights⟩
  · rw [hcheck, if_pos hrefused]
    trivial
  rw [hcheck, ok_bind, if_neg hrefused]
  have hreduction := reduction_alike code (if input.sizes.length = 2 then [first] else [])
  apply (hreduction.alikeIf _).bind_right
  rintro _ reduction ⟨hcode, rfl⟩
  have hitems : AnswersIf (NamesClasses input.sizes ignored (toInts target))
      (List.Forall₂ (IsItem classes ignored) (toInts target).data.toList)
      ((toInts target).data.toList.mapM
        (lossTarget (weight.map RealTensor.toFloats) classes ignored)) := by
    refine AnswersIf.mapM fun code hmem => (answersIf_lossTarget hweights ignored code).of_imp ?_
    intro hnames
    exact hnames classes hranks.classes_eq code (Array.mem_toList_iff.mp hmem)
  apply hitems.bind
  intro targets htargets
  have hcount : targets.length = elementCount target.sizes := by
    rw [← htargets.length_eq, Array.length_toList, (toInts target).size_data, sizes_toInts]
  refine ⟨input.sizes_toFloats, ⟨first, ?_⟩, htargets, hcode, ?_⟩
  · rw [sizes_toInts]
    exact hranks
  · unfold Loss.itemSizes Loss.isBatch
    rw [hcount, input.sizes_toFloats, hranks.itemSizes_eq]

end Operands

/-! ## Rows of scores -/

namespace Loss

variable {loss : Loss}

/-- The score of each item is there, in the row of the item. -/
def ItemsThere (loss : Loss) : Prop :=
  ∀ (row : Nat) (target : Nat × Float32), loss.targets[row]? = some (some target) →
    row * loss.classes + target.1 < loss.input.data.size

/-- **The losses of all items are found exactly if all their scores are there.** -/
theorem items_answers : (∃ items, loss.items = .ok items) ↔ loss.ItemsThere := by
  unfold items
  rw [mapM_answers]
  constructor
  · intro h row target hrow
    obtain ⟨y, hy⟩ := h (some target, row) (List.mem_zipIdx_iff_getElem?.mpr hrow)
    obtain ⟨score, hscore, -⟩ := bind_eq_ok.mp hy
    exact fetch_answers.mp ⟨score, hscore⟩
  · rintro h ⟨item, row⟩ hmem
    cases item with
    | none => exact ⟨0.0, rfl⟩
    | some target =>
      have hthere := h row target (List.mem_zipIdx_iff_getElem?.mp hmem)
      dsimp only
      rw [Checked.fetch_of_lt hthere, ok_bind]
      exact ⟨_, rfl⟩

theorem length_items {items : List Float32} (h : loss.items = .ok items) :
    items.length = loss.targets.length := by
  have hlength := (mapM_eq_ok.mp h).length_eq
  rw [List.length_zipIdx] at hlength
  exact hlength.symm

/-- **A loss is found exactly if all scores are there, and without reduction if the answer has a
place for each of them.** -/
theorem value_answers :
    (∃ value, loss.value = .ok value) ↔ loss.ItemsThere ∧
      (loss.reduction = .none → loss.targets.length = elementCount loss.itemSizes) := by
  rw [← items_answers]
  unfold value
  constructor
  · rintro ⟨value, hvalue⟩
    obtain ⟨items, hitems, hvalue⟩ := bind_eq_ok.mp hvalue
    refine ⟨⟨items, hitems⟩, ?_⟩
    intro hnone
    rw [hnone] at hvalue
    obtain ⟨hsizes, hdata⟩ := ofData_eq_ok.mp hvalue
    rw [← hsizes, ← value.size_data, hdata, List.size_toArray, length_items hitems]
  · rintro ⟨⟨items, hitems⟩, hcount⟩
    rw [hitems, ok_bind]
    cases hreduction : loss.reduction with
    | none =>
      have hsize : items.toArray.size = elementCount loss.itemSizes := by
        rw [List.size_toArray, length_items hitems, hcount hreduction]
      exact ⟨_, Tensor.ofData_of_eq hsize⟩
    | mean => exact ⟨_, rfl⟩
    | sum => exact ⟨_, rfl⟩

theorem sizes_value {value : Tensor Float32} (h : loss.value = .ok value) :
    value.sizes = if loss.reduction = .none then loss.itemSizes else [] := by
  unfold Loss.value at h
  obtain ⟨items, -, h⟩ := bind_eq_ok.mp h
  cases hreduction : loss.reduction with
  | none =>
    simp only [hreduction] at h
    exact (ofData_eq_ok.mp h).1
  | mean =>
    simp only [hreduction] at h
    rw [← Except.ok.inj h]
    rfl
  | sum =>
    simp only [hreduction] at h
    rw [← Except.ok.inj h]
    rfl

/-- The incoming slope has one element per item where there is a loss per item, and else one. -/
def FitsSlope (loss : Loss) (grad : Sizes) : Prop :=
  if loss.reduction = .none ∧ loss.isBatch then grad = [loss.targets.length]
  else elementCount grad = 1

/-- An incoming slope is refused, or there is one for each item. -/
theorem itemSlopes_cases (loss : Loss) (grad : Tensor Float32) :
    (loss.FitsSlope grad.sizes ∧
        ∃ slopes, loss.itemSlopes grad = .ok slopes ∧ slopes.length = loss.targets.length) ∨
      (¬ loss.FitsSlope grad.sizes ∧ ∃ failure, loss.itemSlopes grad = .error failure) := by
  unfold FitsSlope itemSlopes
  by_cases hitems : loss.reduction = .none ∧ loss.isBatch
  · simp only [if_pos hitems]
    by_cases hgrad : grad.sizes = [loss.targets.length]
    · rw [if_pos hgrad]
      refine .inl ⟨hgrad, _, rfl, ?_⟩
      rw [Array.length_toList, grad.size_data, hgrad, elementCount_cons, elementCount_nil,
        Nat.mul_one]
    · rw [if_neg hgrad]
      exact .inr ⟨hgrad, _, rfl⟩
  · simp only [if_neg hitems]
    by_cases hgrad : elementCount grad.sizes = 1
    · have hfirst : 0 < grad.data.size := by
        rw [grad.size_data, hgrad]
        exact Nat.zero_lt_one
      rw [if_neg (not_not_intro hgrad), Checked.fetch_of_lt hfirst, ok_bind]
      exact .inl ⟨hgrad, _, rfl, List.length_map _⟩
    · rw [if_pos hgrad]
      exact .inr ⟨hgrad, _, rfl⟩

/-- The slopes of all items are written to the places of their scores. -/
theorem slopes_there {slopes : List Float32} (hslopes : slopes.length = loss.targets.length) :
    (∀ entry ∈ ((loss.targets.zip slopes).zipIdx.filterMap fun entry =>
        entry.1.1.map fun target =>
          (entry.2 * loss.classes + target.1, -target.2 * entry.1.2) : List (Nat × Float32)),
        entry.1 < loss.input.data.size) ↔ loss.ItemsThere := by
  constructor
  · intro h row target hrow
    obtain ⟨hlt, -⟩ := List.getElem?_eq_some_iff.mp hrow
    have hslope : slopes[row]? = some slopes[row] := List.getElem?_eq_getElem (hslopes ▸ hlt)
    refine h (row * loss.classes + target.1, -target.2 * slopes[row]) ?_
    refine List.mem_filterMap.mpr ⟨((some target, slopes[row]), row), ?_, rfl⟩
    exact List.mem_zipIdx_iff_getElem?.mpr (List.getElem?_zip_eq_some.mpr ⟨hrow, hslope⟩)
  · intro h entry hentry
    obtain ⟨⟨⟨item, slope⟩, row⟩, hmem, hitem⟩ := List.mem_filterMap.mp hentry
    obtain ⟨target, rfl, rfl⟩ := Option.map_eq_some_iff.mp hitem
    exact h row target (List.getElem?_zip_eq_some.mp (List.mem_zipIdx_iff_getElem?.mp hmem)).1

/-- **A slope is found exactly if the incoming slope fits and all scores are there.** -/
theorem slope_answers {grad : Tensor Float32} :
    (∃ slope, loss.slope grad = .ok slope) ↔ loss.FitsSlope grad.sizes ∧ loss.ItemsThere := by
  unfold slope
  rcases loss.itemSlopes_cases grad with
    ⟨hfits, slopes, hslopes, hlength⟩ | ⟨hmisfits, failure, hfailure⟩
  · have hblank : (Array.replicate (elementCount loss.input.sizes) (0.0 : Float32)).size =
        loss.input.data.size := by
      rw [Array.size_replicate, loss.input.size_data]
    rw [hslopes, ok_bind]
    dsimp only
    constructor
    · rintro ⟨slope, hslope⟩
      obtain ⟨written, hwritten, -⟩ := bind_eq_ok.mp hslope
      have hentries := writeAll_answers.mp ⟨written, hwritten⟩
      rw [hblank] at hentries
      exact ⟨hfits, (slopes_there hlength).mp hentries⟩
    · rintro ⟨-, hthere⟩
      have hentries := (slopes_there hlength).mpr hthere
      rw [← hblank] at hentries
      obtain ⟨written, hwritten, hsize⟩ :=
        answers_iff.mp (@answers_writeAll _ (fun _ new => new) _ _ hentries)
      rw [hwritten, ok_bind]
      exact ⟨_, Tensor.ofData_of_eq (hsize.trans Array.size_replicate)⟩
  · rw [hfailure]
    simp [hmisfits]

theorem sizes_slope {grad slope : Tensor Float32} (h : loss.slope grad = .ok slope) :
    slope.sizes = loss.input.sizes := by
  unfold Loss.slope at h
  obtain ⟨slopes, -, h⟩ := bind_eq_ok.mp h
  obtain ⟨written, -, h⟩ := bind_eq_ok.mp h
  exact (ofData_eq_ok.mp h).1

end Loss

/-! ## One sample -/

/-- A vector of scores goes with the targets of one sample: all targets after the first one are
ignored. -/
def OneSample (input : Sizes) (ignored : Int) (target : Tensor Int) : Prop :=
  input.length = 1 → ∀ item code, 0 < item → target.data[item]? = some code → code = ignored

section Matches

variable {input out : Sizes} {target : Tensor Int} {ignored code : Int} {loss : Loss}

theorem LossMatches.length_targets (h : LossMatches input target ignored code out loss) :
    loss.targets.length = elementCount target.sizes := by
  rw [← h.items.length_eq, Array.length_toList, target.size_data]

/-- An item stands at the place of its target. -/
theorem LossMatches.isItem (h : LossMatches input target ignored code out loss) {row : Nat}
    (hlt : row < loss.targets.length) : ∃ code, target.data[row]? = some code ∧
      IsItem loss.classes ignored code loss.targets[row] := by
  obtain ⟨hlength, hitems⟩ := List.forall₂_iff_get.mp h.items
  have hrow : row < target.data.toList.length := hlength ▸ hlt
  exact ⟨target.data[row], Array.getElem?_eq_getElem (by simpa using hrow), hitems row hrow hlt⟩

/-- **All scores are there exactly if a vector goes with the targets of one sample.** -/
theorem LossMatches.itemsThere_iff (h : LossMatches input target ignored code out loss) :
    loss.ItemsThere ↔ OneSample input ignored target := by
  obtain ⟨first, hranks⟩ := h.ranks
  have hdata : loss.input.data.size = elementCount input := by
    rw [loss.input.size_data, h.sizes]
  constructor
  · intro hthere hvector row code hrow hcode
    obtain ⟨hlt, -⟩ := Array.getElem?_eq_some_iff.mp hcode
    have hlt' : row < loss.targets.length := by
      rw [h.length_targets, ← target.size_data]
      exact hlt
    obtain ⟨_, hcode', hitem⟩ := h.isItem hlt'
    obtain rfl := Option.some.inj (hcode.symm.trans hcode')
    by_contra hkept
    -- A target that is not ignored names a class, whose score lies behind the only row.
    cases hfound : loss.targets[row] with
    | none => exact hkept (hitem.none.mp hfound)
    | some found =>
      have hbehind := hthere row found (hfound ▸ List.getElem?_eq_getElem hlt')
      have hclasses := hranks.elementCount_vector hvector
      have hrows : loss.classes ≤ row * loss.classes := Nat.le_mul_of_pos_left _ hrow
      omega
  · intro hsample row found hfound
    obtain ⟨hlt, hget⟩ := List.getElem?_eq_some_iff.mp hfound
    obtain ⟨code, hcode, hitem⟩ := h.isItem hlt
    have hclass : found.1 < loss.classes := hitem.class_lt found hget
    have hkept : code ≠ ignored := by
      intro hignored
      rw [hitem.none.mpr hignored] at hget
      cases hget
    have hrow : input.length = 1 → row = 0 := by
      intro hvector
      by_contra hfurther
      exact hkept (hsample hvector row code (Nat.pos_of_ne_zero hfurther) hcode)
    rw [hdata]
    rw [h.length_targets] at hlt
    exact hranks.place_lt hlt hclass hrow

/-- Without reduction a vector of scores has a place for one loss only. -/
theorem LossMatches.placed_iff (h : LossMatches input target ignored code out loss) :
    (loss.reduction = .none → loss.targets.length = elementCount loss.itemSizes) ↔
      (code = 0 → input.length = 1 → elementCount target.sizes = 1) := by
  obtain ⟨first, hranks⟩ := h.ranks
  rw [h.reduction, h.length_targets]
  unfold Loss.itemSizes Loss.isBatch
  rw [h.sizes, h.length_targets]
  generalize target.sizes = sizes at hranks
  cases hranks with
  | sample => simp
  | row => simp
  | batch => simp

/-- **The two sides want the same of an incoming slope.** -/
theorem LossMatches.fitsSlope_iff (h : LossMatches input target ignored code out loss)
    (grad : Sizes) : loss.FitsSlope grad ↔ Builtin.fitsLoss grad out = true := by
  unfold Loss.FitsSlope Builtin.fitsLoss
  rw [h.out]
  by_cases hnone : loss.reduction = .none
  · cases hbatch : loss.isBatch <;> simp [hnone, hbatch, Loss.itemSizes]
  · simp [hnone]

end Matches

/-! ## The loss and its slope -/

/-- Every target of the call is ignored or names a class. -/
def TargetsInRange (bound : TensorArgs) : Prop :=
  ∀ input target ignored, bound.tensor "self" = .ok input →
    bound.tensor "target" = .ok target → bound.int "ignore_index" = .ok ignored →
      NamesClasses input.sizes ignored (toInts target)

/-- **A vector of scores goes with one sample**: further targets are ignored, and where a loss per
item is asked for there is just one target. -/
structure SingleSample (op : String) (bound : TensorArgs) : Prop where
  targets : ∀ input target ignored, bound.tensor "self" = .ok input →
    bound.tensor "target" = .ok target → bound.int "ignore_index" = .ok ignored →
      OneSample input.sizes ignored (toInts target)
  losses : op = "aten::nll_loss_forward" → ∀ input target, bound.tensor "self" = .ok input →
    bound.tensor "target" = .ok target → bound.int "reduction" = .ok 0 →
      input.sizes.length = 1 → elementCount target.sizes = 1

section Operators

variable {bound : TensorArgs} {input target : RealTensor} {weight : Option RealTensor}
variable {code ignored : Int}

variable (hinput : bound.tensor "self" = .ok input) (htarget : bound.tensor "target" = .ok target)
  (hweight : bound.optTensor "weight" = .ok weight) (hcode : bound.int "reduction" = .ok code)
  (hignored : bound.int "ignore_index" = .ok ignored)

include hinput htarget hignored in
theorem singleSample_iff (op : String) :
    SingleSample op bound ↔ OneSample input.sizes ignored (toInts target) ∧
      (op = "aten::nll_loss_forward" → bound.int "reduction" = .ok 0 →
        input.sizes.length = 1 → elementCount target.sizes = 1) := by
  constructor
  · intro h
    refine ⟨h.targets input target ignored hinput htarget hignored, ?_⟩
    exact fun hop => h.losses hop input target hinput htarget
  · rintro ⟨htargets, hlosses⟩
    constructor
    · intro input' target' ignored' hinput' htarget' hignored'
      obtain rfl := Except.ok.inj (hinput.symm.trans hinput')
      obtain rfl := Except.ok.inj (htarget.symm.trans htarget')
      obtain rfl := Except.ok.inj (hignored.symm.trans hignored')
      exact htargets
    · intro hop input' target' hinput' htarget'
      obtain rfl := Except.ok.inj (hinput.symm.trans hinput')
      obtain rfl := Except.ok.inj (htarget.symm.trans htarget')
      exact hlosses hop

include hinput htarget hweight hcode hignored

/-- **A loss follows its rule** where the targets name classes and a vector of scores goes with one
sample. -/
theorem lossOf_alike :
    AlikeIf (TargetsInRange bound ∧ SingleSample "aten::nll_loss_forward" bound) ManyOf
      (Builtin.nllLoss (bound.map RealTensor.sizes)) (lossOf bound) := by
  unfold Builtin.nllLoss lossOf
  have hoperands := lossOperands_alike hinput htarget hweight hcode hignored
  apply (hoperands.of_imp fun h => h.1 input target ignored hinput htarget hignored).bind
  intro out loss h
  refine AnswersIf.alikeIf ?_
  have hvalue : AnswersIf (TargetsInRange bound ∧ SingleSample "aten::nll_loss_forward" bound)
      (HasSizes out) loss.value := by
    refine answersIf_iff.mpr ⟨?_, fun value hvalue => (Loss.sizes_value hvalue).trans h.out.symm⟩
    rintro ⟨-, hsingle⟩
    obtain ⟨htargets, hlosses⟩ := (singleSample_iff hinput htarget hignored _).mp hsingle
    refine Loss.value_answers.mpr ⟨h.itemsThere_iff.mpr htargets, h.placed_iff.mpr ?_⟩
    rintro rfl
    rw [sizes_toInts]
    exact hlosses rfl hcode
  apply hvalue.bind
  intro value hsizes
  show Returned.many [value.sizes, []] = _
  rw [hsizes]

/-- Where there is a loss, a vector of scores goes with one sample. -/
theorem singleSample_of_lossOf {returned : Returned RealTensor} (h : lossOf bound = .ok returned) :
    SingleSample "aten::nll_loss_forward" bound := by
  obtain ⟨loss, hloss, h⟩ := bind_eq_ok.mp h
  obtain ⟨value, hvalue, -⟩ := bind_eq_ok.mp h
  have hoperands := lossOperands_alike hinput htarget hweight hcode hignored
  obtain ⟨out, -, hmatches⟩ := hoperands.of_right hloss
  obtain ⟨hthere, hplaced⟩ := Loss.value_answers.mp ⟨value, hvalue⟩
  refine (singleSample_iff hinput htarget hignored _).mpr
    ⟨hmatches.itemsThere_iff.mp hthere, fun _ hzero => ?_⟩
  have hone := hmatches.placed_iff.mp hplaced (Except.ok.inj (hcode.symm.trans hzero))
  rw [sizes_toInts] at hone
  exact hone

variable {grad total : RealTensor}
  (hgrad : bound.tensor "grad_output" = .ok grad) (htotal : bound.tensor "total_weight" = .ok total)
include hgrad htotal

/-- **A slope follows its rule** under the same condition. -/
theorem lossBackwardOf_alike :
    AlikeIf (TargetsInRange bound ∧ SingleSample "aten::nll_loss_backward" bound) SingleOf
      (Builtin.nllLossGradient (bound.map RealTensor.sizes)) (lossBackwardOf bound) := by
  unfold Builtin.nllLossGradient lossBackwardOf
  have hoperands := lossOperands_alike hinput htarget hweight hcode hignored
  apply (hoperands.of_imp fun h => h.1 input target ignored hinput htarget hignored).bind
  intro out loss h
  rw [tensor_sizes "self" hinput, tensor_sizes "grad_output" hgrad,
    tensor_sizes "total_weight" htotal, floatArg_eq "grad_output" hgrad,
    floatArg_eq "total_weight" htotal]
  simp only [lift_ok, ok_bind, RealTensor.sizes_toFloats]
  have hfits := h.fitsSlope_iff grad.sizes
  by_cases hone : elementCount total.sizes = 1
  · rw [if_neg (not_not_intro hone), if_neg (not_not_intro hone)]
    by_cases hgiven : Builtin.fitsLoss grad.sizes out = true
    · rw [if_neg (by simp [hgiven])]
      refine (AnswersIf.alikeIf (answersIf_iff.mpr ⟨?_, ?_⟩)).single
      · rintro ⟨-, hsingle⟩
        have htargets := ((singleSample_iff hinput htarget hignored _).mp hsingle).1
        refine Loss.slope_answers.mpr ⟨?_, h.itemsThere_iff.mpr htargets⟩
        rw [grad.sizes_toFloats]
        exact hfits.mpr hgiven
      · intro slope hslope
        exact (Loss.sizes_slope hslope).trans h.sizes
    · rw [if_pos (by simpa using hgiven)]
      cases hslope : loss.slope grad.toFloats with
      | error failure => trivial
      | ok slope =>
        have hfitted := (Loss.slope_answers.mp ⟨slope, hslope⟩).1
        rw [grad.sizes_toFloats] at hfitted
        exact absurd (hfits.mp hfitted) hgiven
  · rw [if_pos hone, if_pos hone]
    split <;> trivial

/-- Where there is a slope, a vector of scores goes with one sample. -/
theorem singleSample_of_lossBackwardOf {returned : Returned RealTensor}
    (h : lossBackwardOf bound = .ok returned) :
    SingleSample "aten::nll_loss_backward" bound := by
  unfold lossBackwardOf at h
  obtain ⟨loss, hloss, h⟩ := bind_eq_ok.mp h
  rw [floatArg_eq "total_weight" htotal, floatArg_eq "grad_output" hgrad, ok_bind, ok_bind,
    incompatible, Checked.refuse, guarded_eq_ok] at h
  obtain ⟨slope, hslope, -⟩ := bind_eq_ok.mp h.2
  have hoperands := lossOperands_alike hinput htarget hweight hcode hignored
  obtain ⟨out, -, hmatches⟩ := hoperands.of_right hloss
  have hthere := (Loss.slope_answers.mp ⟨slope, hslope⟩).2
  exact (singleSample_iff hinput htarget hignored _).mpr
    ⟨hmatches.itemsThere_iff.mp hthere, fun hop => absurd hop (by decide)⟩

end Operators

end OpShape.Operator

namespace OpShape

variable {draws : Draws}

/-! ## Agreement -/

/-- **The loss and its slope agree with the operators** on every well typed call, of any ranks and
sizes, whose targets name classes, provided that a vector of scores goes with one sample.  Where it
does not, the operators never answer. -/
theorem loss_agrees_on_samples {function : ShapeFunction} (hfunction : function ∈ Builtin.lossFamily)
    {args : CallArgs RealTensor} {bound : TensorArgs}
    (hbind : function.signature.bind args = .ok bound)
    (htyped : function.signature.WellTyped bound) (token : Nat) :
    ∃ operator, Operator.ofName? draws function.op.text = some operator ∧
      AgreeIf (Operator.TargetsInRange bound ∧ Operator.SingleSample function.op.text bound)
        (function.call token (args.map RealTensor.sizes)) (operator bound) ∧
      ∀ returned, operator bound = .ok returned →
        Operator.SingleSample function.op.text bound := by
  rw [ShapeFunction.call_sizes hbind]
  unfold Builtin.lossFamily at hfunction
  simp only [List.mem_cons, List.not_mem_nil, or_false] at hfunction
  rcases hfunction with rfl | rfl
  · obtain ⟨input, hinput⟩ := htyped.tensor "self" rfl rfl
    obtain ⟨target, htarget⟩ := htyped.tensor "target" rfl rfl
    obtain ⟨weight, hweight⟩ := htyped.optTensor "weight" rfl rfl
    obtain ⟨code, hcode⟩ := htyped.int "reduction" rfl rfl
    obtain ⟨ignored, hignored⟩ := htyped.int "ignore_index" rfl rfl
    have halike := Operator.lossOf_alike hinput htarget hweight hcode hignored
    refine ⟨_, rfl, agreeIf_of_manyOf token halike, fun returned hreturned => ?_⟩
    exact Operator.singleSample_of_lossOf hinput htarget hweight hcode hignored hreturned
  · obtain ⟨input, hinput⟩ := htyped.tensor "self" rfl rfl
    obtain ⟨target, htarget⟩ := htyped.tensor "target" rfl rfl
    obtain ⟨weight, hweight⟩ := htyped.optTensor "weight" rfl rfl
    obtain ⟨code, hcode⟩ := htyped.int "reduction" rfl rfl
    obtain ⟨ignored, hignored⟩ := htyped.int "ignore_index" rfl rfl
    obtain ⟨grad, hgrad⟩ := htyped.tensor "grad_output" rfl rfl
    obtain ⟨total, htotal⟩ := htyped.tensor "total_weight" rfl rfl
    have halike := Operator.lossBackwardOf_alike hinput htarget hweight hcode hignored hgrad htotal
    refine ⟨_, rfl, agreeIf_of_singleOf token halike, fun returned hreturned => ?_⟩
    exact Operator.singleSample_of_lossBackwardOf hinput htarget hweight hcode hignored hgrad htotal
      hreturned

/-- Two samples with scores for three classes; each sample has a row of its own. -/
theorem loss_agrees_on_samples_batch :
    let batch : TensorArgs := { values := [
      ("self", .tensor (.float (Tensor.full [2, 3] 1))),
      ("target", .tensor (.int (Tensor.full [2] 2))),
      ("weight", .none),
      ("reduction", .int 0),
      ("ignore_index", .int (-100))] }
    (∃ operator, Operator.ofName? Single.spread "aten::nll_loss_forward" = some operator ∧
      AgreeIf (Operator.TargetsInRange batch ∧
          Operator.SingleSample "aten::nll_loss_forward" batch)
        (Builtin.lossFamily[0].call 0
          { positional := [.tensor [2, 3], .tensor [2], .none, .int 0, .int (-100)],
            keywords := [] })
        (operator batch) ∧
      ∀ returned, operator batch = .ok returned →
        Operator.SingleSample "aten::nll_loss_forward" batch) ∧
      Operator.TargetsInRange batch ∧ Operator.SingleSample "aten::nll_loss_forward" batch := by
  intro batch
  refine ⟨?_, ?_, ?_⟩
  · refine @loss_agrees_on_samples Single.spread Builtin.lossFamily[0] (List.getElem_mem _) {
      positional := [
        .tensor (.float (Tensor.full [2, 3] 1)), .tensor (.int (Tensor.full [2] 2)), .none,
        .int 0, .int (-100)],
      keywords := [] } batch rfl ?_ 0
    exact .cons ⟨rfl, _, rfl⟩ (.cons ⟨rfl, _, rfl⟩ (.cons ⟨rfl, .inl rfl⟩
      (.cons ⟨rfl, 0, rfl⟩ (.cons ⟨rfl, -100, rfl⟩ .nil))))
  · intro input target ignored hinput htarget _ classes hclasses code hcode
    obtain rfl : RealTensor.float (Tensor.full [2, 3] 1) = input := Except.ok.inj hinput
    obtain rfl : RealTensor.int (Tensor.full [2] 2) = target := Except.ok.inj htarget
    obtain rfl : 3 = classes := Option.some.inj hclasses
    rw [show code = 2 from (Array.mem_replicate.mp hcode).2]
    exact .inr (by decide)
  · refine (Operator.singleSample_iff rfl rfl rfl _).mpr ⟨?_, ?_⟩
    · intro hvector
      cases hvector
    · intro _ _ hvector
      cases hvector

/-- Two classes with a target for each of them: the second target has no row of scores. -/
theorem loss_disagrees_on_row :
    let row : TensorArgs := { values := [
      ("self", .tensor (.float (Tensor.full [2] 1))),
      ("target", .tensor (.int (Tensor.full [2] 1))),
      ("weight", .none),
      ("reduction", .int 1),
      ("ignore_index", .int (-100))] }
    Builtin.lossFamily[0].signature.WellTyped row ∧ Operator.TargetsInRange row ∧
      ¬ ∃ operator, Operator.ofName? Single.spread "aten::nll_loss_forward" = some operator ∧
        AgreeIf (Operator.TargetsInRange row)
          (Builtin.lossFamily[0].call 0
            { positional := [.tensor [2], .tensor [2], .none, .int 1, .int (-100)],
              keywords := [] })
          (operator row) := by
  intro row
  have hrange : Operator.TargetsInRange row := by
    intro input target ignored hinput htarget _ classes hclasses code hcode
    obtain rfl : RealTensor.float (Tensor.full [2] 1) = input := Except.ok.inj hinput
    obtain rfl : RealTensor.int (Tensor.full [2] 1) = target := Except.ok.inj htarget
    obtain rfl : 2 = classes := Option.some.inj hclasses
    rw [show code = 1 from (Array.mem_replicate.mp hcode).2]
    exact .inr (by decide)
  refine ⟨?_, hrange, ?_⟩
  · exact .cons ⟨rfl, _, rfl⟩ (.cons ⟨rfl, _, rfl⟩ (.cons ⟨rfl, .inl rfl⟩
      (.cons ⟨rfl, 1, rfl⟩ (.cons ⟨rfl, -100, rfl⟩ .nil))))
  · rintro ⟨operator, hoperator, hagree⟩
    obtain rfl : Operator.lossOf = operator := Option.some.inj hoperator
    obtain ⟨returned, hreturned⟩ := (agreeIf_iff.mp hagree).2.1 hrange _ rfl
    have hsingle := Operator.singleSample_of_lossOf rfl rfl rfl rfl rfl hreturned
    have hignored : (1 : Int) = -100 :=
      hsingle.targets _ _ _ rfl rfl rfl rfl 1 1 Nat.zero_lt_one rfl
    cases hignored

end OpShape
