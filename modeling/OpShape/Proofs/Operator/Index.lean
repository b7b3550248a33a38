/-
# `OpShape.Proofs.Operator.Index` — the functions that pick elements agree with the operators.

A shape function never sees the positions that index tensors hold.  What fails for it fails for the
operator; where it answers, the operator gives a tensor of that shape as soon as all positions are
in range, and it gives no other shape in any case.  Positions that may count from the end need the
size that they count from as a word: in a dimension of more than 2⁶³ positions none is found.
-/
import OpShape.Proofs.Operator.AdvancedIndex
import OpShape.Proofs.Operator.Select

namespace OpShape.Operator

open Tensor (HasSizes answers_fetch answers_ofData)

variable {α : Type}

attribute [local irreducible] signed

/-! ## Picking -/

/-- **Picking by index tensors follows its rule**, and answers if all positions are resolved. -/
theorem index_alike (input : Tensor α) (indices : List (Option (Tensor Int))) :
    AlikeIf (IndicesResolved input.sizes indices) HasSizes
      (Rule.advancedIndex input.sizes (indexSizes indices)) (index input indices) := by
  unfold index
  apply (pickedElements_alike input.sizes indices).bind_right
  intro sizes picked hpicks
  refine Answers.answersIf ?_ _
  have hdata : Answers (List.Forall₂ (fun _ _ => True) picked.offsets)
      (picked.offsets.mapM (Checked.fetch input.data) : OpResult (List α)) := by
    refine Answers.mapM fun offset hoffset => answers_fetch ?_
    exact Nat.lt_of_lt_of_eq (hpicks.offsets offset hoffset) input.size_data.symm
  apply hdata.bind
  intro data hdata
  rw [hpicks.sizes]
  apply answers_ofData
  rw [List.size_toArray, ← hdata.length_eq, hpicks.count]

/-! ## Writing -/

/-- Writing to positions that are there changes no size, one write after the other. -/
theorem answers_writeAll {write : α → α → α} {data : Array α} {entries : List (Nat × α)}
    (h : ∀ entry ∈ entries, entry.1 < data.size) :
    Answers (fun written : Array α => written.size = data.size) (writeAll write data entries) := by
  induction entries generalizing data with
  | nil => exact rfl
  | cons entry entries ih =>
    have hentry := h entry List.mem_cons_self
    unfold writeAll
    rw [List.foldlM_cons, Checked.fetch_of_lt hentry, ok_bind, Checked.store_of_lt hentry, ok_bind]
    have hsize : (data.set entry.1 (write data[entry.1] entry.2) hentry).size = data.size :=
      Array.size_set hentry
    -- A write leaves the size as it is, so that the next positions are there as well.
    refine (@ih (data.set entry.1 (write data[entry.1] entry.2) hentry) ?_).imp ?_
    · intro other hother
      rw [hsize]
      exact h other (List.mem_cons_of_mem _ hother)
    · intro written hwritten
      exact hwritten.trans hsize

/-- **Writing answers exactly if all its positions are there.** -/
theorem writeAll_answers {write : α → α → α} {data : Array α} {entries : List (Nat × α)} :
    (∃ written, writeAll write data entries = .ok written) ↔
      ∀ entry ∈ entries, entry.1 < data.size := by
  constructor
  · rintro ⟨written, hwritten⟩
    induction entries generalizing data with
    | nil => simp
    | cons entry entries ih =>
      unfold writeAll at hwritten
      rw [List.foldlM_cons, bind_eq_ok] at hwritten
      obtain ⟨next, hnext, hwritten⟩ := hwritten
      rw [bind_eq_ok] at hnext
      obtain ⟨old, hold, hnext⟩ := hnext
      have hentry : entry.1 < data.size := Tensor.fetch_answers.mp ⟨old, hold⟩
      rw [Checked.store_of_lt hentry] at hnext
      have hrest := ih hwritten
      rw [← Except.ok.inj hnext, Array.size_set] at hrest
      exact List.forall_mem_cons.mpr ⟨hentry, hrest⟩
  · intro h
    obtain ⟨written, hwritten, -⟩ := answers_iff.mp (@answers_writeAll _ write data entries h)
    exact ⟨written, hwritten⟩

/-- **Writing to picked elements follows its rule**: the values have to stretch over them. -/
theorem indexPut_alike (write : α → α → α) (input : Tensor α)
    (indices : List (Option (Tensor Int))) (values : Tensor α) :
    AlikeIf (IndicesResolved input.sizes indices) HasSizes
      (Builtin.overwritten input.sizes (indexSizes indices) values.sizes)
      (indexPut write input indices values) := by
  unfold indexPut Builtin.overwritten
  apply (pickedElements_alike input.sizes indices).bind
  intro sizes picked hpicks
  rw [hpicks.sizes]
  by_cases hstretches : Stretches values.sizes sizes
  · rw [if_pos (stretchesOver_iff.mpr hstretches)]
    refine AnswersIf.alikeIf (Answers.answersIf ?_ _)
    apply (answers_broadcastTo hstretches).bind
    intro wide _
    have hentries : ∀ entry ∈ picked.offsets.zip wide.data.toList, entry.1 < input.data.size := by
      rintro ⟨offset, value⟩ hentry
      rw [input.size_data]
      exact hpicks.offsets offset (List.of_mem_zip hentry).1
    apply (answers_writeAll hentries).bind
    intro data hdata
    exact answers_ofData (hdata.trans input.size_data)
  · obtain ⟨failure, hfailure⟩ := broadcastTo_refuses hstretches
    rw [if_neg (mt stretchesOver_iff.mp hstretches), hfailure]
    trivial

/-! ## Calls with index tensors -/

/-- The index tensors of a call hold positions of the dimensions that they index. -/
def IndexArgsInRange (optional : Bool) (bound : TensorArgs) : Prop :=
  ∀ input indices, floatArg bound "self" = .ok input → indexTensors bound optional = .ok indices →
    IndicesInRange input.sizes indices

/-- The dimensions that the index tensors of a call index have sizes that are words. -/
def IndexArgsFit (optional : Bool) (bound : TensorArgs) : Prop :=
  ∀ input indices, floatArg bound "self" = .ok input → indexTensors bound optional = .ok indices →
    IndexedSizesFit input.sizes indices

/-- In a call whose positions are in range of words they are resolved. -/
theorem indicesResolved_of_args {optional : Bool} {bound : TensorArgs} {input : Tensor Float32}
    {indices : List (Option (Tensor Int))} (hinput : floatArg bound "self" = .ok input)
    (hindices : indexTensors bound optional = .ok indices)
    (h : IndexArgsInRange optional bound ∧ IndexArgsFit optional bound) :
    IndicesResolved input.sizes indices :=
  fun dim size index hsize hindex =>
    ⟨h.2 input indices hinput hindices dim size index hsize hindex,
      h.1 input indices hinput hindices dim size index hsize hindex⟩

/-- Index tensors that may be missing are the same on both sides. -/
theorem alike_optIndices (bound : TensorArgs) :
    Alike (fun shapes indices => shapes = indexSizes indices)
      (liftM ((bound.map RealTensor.sizes).optTensors "indices") : ShapeResult (List (Option Sizes)))
      (indexTensors bound true) := by
  unfold indexTensors
  rw [if_pos rfl]
  apply (alike_optTensors "indices" bound).bind_right
  rintro _ tensors rfl
  show tensors.map (Option.map RealTensor.sizes) = indexSizes (tensors.map (Option.map toInts))
  unfold indexSizes
  rw [List.map_map]
  apply List.map_congr_left
  intro tensor _
  cases tensor with
  | none => rfl
  | some tensor => exact congrArg some (sizes_toInts tensor).symm

/-- Index tensors that have to be there are the same on both sides. -/
theorem alike_indices (bound : TensorArgs) :
    Alike (fun shapes indices => shapes.map some = indexSizes indices)
      (liftM ((bound.map RealTensor.sizes).tensors "indices") : ShapeResult (List Sizes))
      (indexTensors bound false) := by
  unfold indexTensors
  rw [if_neg Bool.false_ne_true]
  apply (alike_tensors "indices" bound).bind_right
  rintro _ tensors rfl
  show (tensors.map RealTensor.sizes).map some =
    indexSizes (tensors.map fun tensor => some (toInts tensor))
  unfold indexSizes
  rw [List.map_map, List.map_map]
  exact List.map_congr_left fun tensor _ => congrArg some (sizes_toInts tensor).symm

section Calls

variable {bound : TensorArgs}

theorem indexOf_alike (bound : TensorArgs) :
    AlikeIf (IndexArgsInRange true bound ∧ IndexArgsFit true bound) SingleOf
      (Builtin.indexed (bound.map RealTensor.sizes)) (indexOf bound) := by
  unfold indexOf Builtin.indexed
  refine (alike_floats "self" bound).and_eq_ok.bind_if ?_
  rintro _ input ⟨rfl, hinput⟩
  refine (alike_optIndices bound).and_eq_ok.bind_if ?_
  rintro _ indices ⟨rfl, hfound⟩
  exact (index_alike input indices).single.of_imp (indicesResolved_of_args hinput hfound)

/-- What the two ways of writing have in common: how index tensors are read is all that they
differ in. -/
theorem indexPutOf_alike {β : Type} {optional accumulate : Bool}
    (haccumulate : bound.bool "accumulate" = .ok accumulate)
    {shapes : ShapeResult β} {given : β → List (Option Sizes)}
    (hindices : Alike (fun shapes indices => given shapes = indexSizes indices) shapes
      (indexTensors bound optional)) :
    AlikeIf (IndexArgsInRange optional bound ∧ IndexArgsFit optional bound) SingleOf
      (do
        let shape ← (liftM ((bound.map RealTensor.sizes).tensor "self") : ShapeResult Sizes)
        let indices ← shapes
        let values ← (liftM ((bound.map RealTensor.sizes).tensor "values") : ShapeResult Sizes)
        Builtin.overwritten shape (given indices) values)
      (indexPutOf optional bound) := by
  unfold indexPutOf
  refine (alike_floats "self" bound).and_eq_ok.bind_if ?_
  rintro _ input ⟨rfl, hinput⟩
  have haccumulate' : (liftM (bound.bool "accumulate") : OpResult Bool) = .ok accumulate :=
    lift_eq_ok.mpr haccumulate
  simp only [haccumulate', ok_bind]
  -- The operator reads the values before the index tensors.
  refine alikeIf_comm_right.mpr (hindices.and_eq_ok.bind_if ?_)
  rintro given' indices ⟨hgiven, hfound⟩
  rw [hgiven]
  apply (alike_floats "values" bound).bind_if
  rintro _ values rfl
  have halike := indexPut_alike (fun old new => if accumulate then old + new else new) input indices
    values
  exact halike.single.of_imp (indicesResolved_of_args hinput hfound)

end Calls

end OpShape.Operator

namespace OpShape

variable {draws : Draws}

/-! ## Agreement -/

/-- The functions that pick elements or write to picked ones. -/
def pickingOps : List String := [
  "aten::select.int",
  "aten::slice.Tensor",
  "aten::gather",
  "aten::index.Tensor",
  "aten::index_put",
  "aten::index_put.hacked_twin",
  "aten::embedding"
]

/-- **Every position that an index tensor of the call holds is in range of the dimension that it
indexes.**  Positions may count from the end, but not where they are gathered. -/
structure PositionsInRange (op : String) (bound : TensorArgs) : Prop where
  gather : op = "aten::gather" → Operator.GatherArgsInRange bound
  index : op = "aten::index.Tensor" → Operator.IndexArgsInRange true bound
  indexPut : op = "aten::index_put" → Operator.IndexArgsInRange true bound
  indexPutFirst : op = "aten::index_put.hacked_twin" → Operator.IndexArgsInRange false bound
  embedding : op = "aten::embedding" → Operator.EmbeddingArgsInRange bound

/-- **Every size that positions of the call count from is a word**, below 2⁶³: the sizes of dimensions
with an index tensor, and the number of rows of a table. -/
structure CountedSizesFit (op : String) (bound : TensorArgs) : Prop where
  index : op = "aten::index.Tensor" → Operator.IndexArgsFit true bound
  indexPut : op = "aten::index_put" → Operator.IndexArgsFit true bound
  indexPutFirst : op = "aten::index_put.hacked_twin" → Operator.IndexArgsFit false bound
  embedding : op = "aten::embedding" → Operator.EmbeddingRowsFit bound

/-- **The functions that pick elements agree with the operators** on every well typed call of any
ranks and sizes; for a slice, the length of the range and its step have to make up no more than a
word.  What fails for the function fails for the operator, and both give the same sizes.  Where the
function answers so does the operator, provided that the positions of the call are in range, and that
the sizes from which index tensors and the rows of a table count are below 2⁶³. -/
theorem picking_agrees {function : ShapeFunction} (hfunction : function ∈ Builtin.indexFamily)
    (hop : function.op.text ∈ pickingOps) {args : CallArgs RealTensor} {bound : TensorArgs}
    (hbind : function.signature.bind args = .ok bound)
    (htyped : function.signature.WellTyped bound)
    (hrange : function.op.text = "aten::slice.Tensor" → Operator.RangeArgsFit bound) (token : Nat) :
    ∃ operator, Operator.ofName? draws function.op.text = some operator ∧
      AgreeIf (PositionsInRange function.op.text bound ∧ CountedSizesFit function.op.text bound)
        (function.call token (args.map RealTensor.sizes)) (operator bound) := by
  rw [ShapeFunction.call_sizes hbind]
  unfold Builtin.indexFamily at hfunction
  simp only [List.mem_cons, List.not_mem_nil, or_false] at hfunction
  rcases hfunction with rfl | rfl | rfl | rfl | rfl | rfl | rfl | rfl | rfl
  · have halike := Operator.selectOf_alike bound
    exact ⟨_, rfl, agreeIf_of_singleOf token (halike.alikeIf _)⟩
  · have halike := Operator.sliceOf_alike (hrange rfl)
    exact ⟨_, rfl, agreeIf_of_singleOf token (halike.alikeIf _)⟩
  · have halike := Operator.gatherOf_alike bound
    refine ⟨_, rfl, agreeIf_of_singleOf token (halike.of_imp ?_)⟩
    rintro ⟨hpositions, -⟩
    exact hpositions.gather rfl
  · exact absurd hop (by decide)
  · have halike := Operator.indexOf_alike bound
    refine ⟨_, rfl, agreeIf_of_singleOf token (halike.of_imp ?_)⟩
    rintro ⟨hpositions, hsizes⟩
    exact ⟨hpositions.index rfl, hsizes.index rfl⟩
  · obtain ⟨accumulate, haccumulate⟩ := htyped.bool "accumulate" rfl rfl
    have halike := Operator.indexPutOf_alike haccumulate (Operator.alike_optIndices bound)
    refine ⟨_, rfl, agreeIf_of_singleOf token (halike.of_imp ?_)⟩
    rintro ⟨hpositions, hsizes⟩
    exact ⟨hpositions.indexPut rfl, hsizes.indexPut rfl⟩
  · obtain ⟨accumulate, haccumulate⟩ := htyped.bool "accumulate" rfl rfl
    have halike := Operator.indexPutOf_alike haccumulate (Operator.alike_indices bound)
    refine ⟨_, rfl, agreeIf_of_singleOf token (halike.of_imp ?_)⟩
    rintro ⟨hpositions, hsizes⟩
    exact ⟨hpositions.indexPutFirst rfl, hsizes.indexPutFirst rfl⟩
  · have halike := Operator.embeddingOf_alike bound
    refine ⟨_, rfl, agreeIf_of_singleOf token (halike.of_imp ?_)⟩
    rintro ⟨hpositions, hsizes⟩
    exact ⟨hpositions.embedding rfl, hsizes.embedding rfl⟩
  · exact absurd hop (by decide)

/-- Two rows of a matrix are picked, one of them counted from the end; both are there. -/
theorem picking_agrees_rows :
    let rows : TensorArgs := { values := [
      ("self", .tensor (.float (Tensor.full [3, 4] 1))),
      ("indices", .list [.tensor (.int (Tensor.vector [0, -1]))])] }
    (∃ operator, Operator.ofName? Single.spread "aten::index.Tensor" = some operator ∧
      AgreeIf (PositionsInRange "aten::index.Tensor" rows ∧
          CountedSizesFit "aten::index.Tensor" rows)
        (Builtin.indexFamily[4].call 0
          { positional := [.tensor [3, 4], .list [.tensor [2]]], keywords := [] })
        (operator rows)) ∧
      PositionsInRange "aten::index.Tensor" rows ∧ CountedSizesFit "aten::index.Tensor" rows := by
  intro rows
  have hindex : ∀ (input : Tensor Float32) (indices : List (Option (Tensor Int))),
      Operator.floatArg rows "self" = .ok input → Operator.indexTensors rows true = .ok indices →
        ∀ (dim size : Nat) (index : Tensor Int), input.sizes[dim]? = some size →
          indices[dim]? = some (some index) → size = 3 ∧ index = Tensor.vector [0, -1] := by
    intro input indices hinput hindices dim size index hsize hindex
    obtain rfl : (Tensor.full [3, 4] 1 : Tensor Float32) = input := Except.ok.inj hinput
    obtain rfl : [some (Tensor.vector [0, -1])] = indices := Except.ok.inj hindices
    cases dim with
    | zero =>
      exact ⟨(Option.some.inj hsize).symm, (Option.some.inj (Option.some.inj hindex)).symm⟩
    | succ dim => cases hindex
  refine ⟨?_, ?_, ?_⟩
  · refine @picking_agrees Single.spread Builtin.indexFamily[4] (List.getElem_mem _) (by decide) {
      positional := [
        .tensor (.float (Tensor.full [3, 4] 1)),
        .list [.tensor (.int (Tensor.vector [0, -1]))]],
      keywords := [] } rows rfl ?_ (fun h => absurd h (by decide)) 0
    exact .cons ⟨rfl, _, rfl⟩ (.cons ⟨rfl, [some (.int (Tensor.vector [0, -1]))], rfl⟩ .nil)
  · refine ⟨fun h => absurd h (by decide), ?_, fun h => absurd h (by decide),
      fun h => absurd h (by decide), fun h => absurd h (by decide)⟩
    intro _ input indices hinput hindices dim size index hsize hgiven position hposition
    obtain ⟨rfl, rfl⟩ := hindex input indices hinput hindices dim size index hsize hgiven
    have hmem : position ∈ [(0 : Int), -1] := List.mem_toArray.mp hposition
    rcases List.mem_pair.mp hmem with rfl | rfl <;> decide
  · refine ⟨?_, fun h => absurd h (by decide), fun h => absurd h (by decide),
      fun h => absurd h (by decide)⟩
    intro _ input indices hinput hindices dim size index hsize hgiven
    rw [(hindex input indices hinput hindices dim size index hsize hgiven).1]
    decide

/-- **No row is found in a table of 2⁶³ + 1 of them**, which the operator takes for a negative
number: the function answers with the shape of the one row, and the operator refuses its position. -/
theorem picking_disagrees_on_oversized :
    let table : Tensor Float32 := { sizes := [2 ^ 63 + 1, 0], data := #[], size_data := rfl }
    let rows : TensorArgs := { values := [
      ("weight", .tensor (.float table)),
      ("indices", .tensor (.int (Tensor.vector [0]))),
      ("padding_idx", .int (-1)),
      ("scale_grad_by_freq", .bool false),
      ("sparse", .bool false)] }
    Builtin.indexFamily[7].signature.WellTyped rows ∧
      PositionsInRange "aten::embedding" rows ∧
      ¬ ∃ operator, Operator.ofName? Single.spread "aten::embedding" = some operator ∧
        AgreeIf (PositionsInRange "aten::embedding" rows)
          (Builtin.indexFamily[7].call 0
            { positional := [.tensor [2 ^ 63 + 1, 0], .tensor [1]], keywords := [] })
          (operator rows) := by
  intro table rows
  have hrange : PositionsInRange "aten::embedding" rows := by
    refine ⟨fun h => absurd h (by decide), fun h => absurd h (by decide),
      fun h => absurd h (by decide), fun h => absurd h (by decide), ?_⟩
    intro _ weight indices count width hweight hindices hsizes position hposition
    obtain rfl : table = weight := Except.ok.inj hweight
    obtain rfl : Tensor.vector [0] = indices := Except.ok.inj hindices
    obtain rfl : 2 ^ 63 + 1 = count := (List.cons.inj hsizes).1
    have hmem : position ∈ [(0 : Int)] := List.mem_toArray.mp hposition
    rw [List.mem_singleton.mp hmem]
    decide
  refine ⟨?_, hrange, ?_⟩
  · exact .cons ⟨rfl, _, rfl⟩ (.cons ⟨rfl, _, rfl⟩ (.cons ⟨rfl, -1, rfl⟩ (.cons ⟨rfl, _, rfl⟩
      (.cons ⟨rfl, _, rfl⟩ .nil))))
  · rintro ⟨operator, hoperator, hagree⟩
    obtain rfl : Operator.embeddingOf = operator := Option.some.inj hoperator
    obtain ⟨tensors, htensors⟩ := (agreeIf_iff.mp hagree).2.1 hrange _ rfl
    have hrefused : Operator.embeddingOf rows = Operator.invalid "Index is out of bounds" := by
      rfl
    rw [hrefused] at htensors
    cases htensors

end OpShape
