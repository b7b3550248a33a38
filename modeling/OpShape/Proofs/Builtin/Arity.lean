/-
# `OpShape.Proofs.Builtin.Arity` — declared results and results.

A built-in function declares how many results it has.  The rule behind it finds one list of sizes
where one result is declared, and else a tuple of as many lists as are declared; no size is left
open.  Only the count of each number finds no sizes: it answers with a vector whose length is open.
The number that is declared goes with the name of the operator, as does the number of tensors that
the reference oracle answers with.
-/
import OpShape.Proofs.Builtin.Entry
import OpShape.Proofs.Operator.Arity

namespace OpShape

namespace Rule

/-! ## Shapes without open sizes -/

/-- The sizes of a shape are found exactly if each of its dimensions is fixed. -/
theorem concrete_ofSizes (sizes : Sizes) : concrete (.ofSizes sizes) = .ok sizes := by
  unfold concrete
  rw [Shape.dims_ofSizes]
  induction sizes with
  | nil => rfl
  | cons size sizes ih =>
    rw [List.map_cons, List.mapM_cons, ih]
    rfl

theorem concrete_unknownVector (token : Nat) :
    concrete (.unknownVector token) = Checked.refuse .unknownDim := rfl

end Rule

namespace Builtin

/-! ## Tuples -/

/-- **A rule for tuples finds this many lists of sizes**, if it finds any. -/
def FindsTuple (n : Nat) (sizes : ShapeArgs → ShapeResult (List Sizes)) : Prop :=
  ∀ args, AnswersIf False (fun answer => answer.length = n) (sizes args)

@[simp] theorem findsTuple_dimExtremum : FindsTuple 2 dimExtremum := by
  simp [FindsTuple, dimExtremum]

@[simp] theorem findsTuple_greatest : FindsTuple 2 greatest := by
  simp [FindsTuple, greatest]

@[simp] theorem findsTuple_maxPool2dWithIndices : FindsTuple 2 maxPool2dWithIndices := by
  simp [FindsTuple, maxPool2dWithIndices]

@[simp] theorem findsTuple_layerNormWithStats : FindsTuple 3 layerNormWithStats := by
  simp [FindsTuple, layerNormWithStats]

@[simp] theorem findsTuple_batchNormWithStats : FindsTuple 3 batchNormWithStats := by
  simp [FindsTuple, batchNormWithStats]

@[simp] theorem findsTuple_nllLoss : FindsTuple 2 nllLoss := by
  simp [FindsTuple, nllLoss]

/-! ## Forms of computations -/

/-- **The computation has this many results**, and it leaves a size open or does not. -/
inductive HasArity : (Nat → ShapeArgs → ShapeResult (Returned Shape)) → Nat → Bool → Prop
  | one (sizes : ShapeArgs → ShapeResult Sizes) : HasArity (one sizes) 1 false
  | many {n : Nat} {sizes : ShapeArgs → ShapeResult (List Sizes)} :
      n ≠ 1 → FindsTuple n sizes → HasArity (many sizes) n false
  | count : HasArity binCount 1 true

attribute [simp] HasArity.one HasArity.many HasArity.count

section Answers

variable {compute : Nat → ShapeArgs → ShapeResult (Returned Shape)} {n token : Nat}
  {args : ShapeArgs} {returned : Returned Shape}

theorem one_answer {sizes : ShapeArgs → ShapeResult Sizes}
    (h : one sizes token args = .ok returned) : ∃ found, returned = .one (.ofSizes found) := by
  obtain ⟨found, -, hfound⟩ := bind_eq_ok.mp h
  exact ⟨found, (Except.ok.inj hfound).symm⟩

theorem many_answer {sizes : ShapeArgs → ShapeResult (List Sizes)} (htuple : FindsTuple n sizes)
    (h : many sizes token args = .ok returned) :
    ∃ found : List Sizes, found.length = n ∧ returned = .many (found.map .ofSizes) := by
  obtain ⟨found, hsizes, hfound⟩ := bind_eq_ok.mp h
  refine ⟨found, ?_, (Except.ok.inj hfound).symm⟩
  exact (answersIf_iff.mp (htuple args)).2 found hsizes

theorem binCount_answer (h : binCount token args = .ok returned) :
    returned = .one (.unknownVector token) := by
  have hanswer : AnswersIf False (· = .one (.unknownVector token)) (binCount token args) := by
    simp [binCount, Rule.wrongRank, Rule.invalid, Rule.incompatible, Checked.refuse]
  exact (answersIf_iff.mp hanswer).2 returned h

/-- **As many results as the arity says**: one result is a single shape, and all others are
tuples. -/
theorem HasArity.count_answer {leavesOpen : Bool} (h : HasArity compute n leavesOpen)
    (hreturned : compute token args = .ok returned) :
    returned.toList.length = n ∧ ((∃ shape, returned = .one shape) ↔ n = 1) := by
  cases h with
  | one sizes =>
    obtain ⟨found, rfl⟩ := one_answer hreturned
    exact ⟨rfl, iff_of_true ⟨_, rfl⟩ rfl⟩
  | many hn htuple =>
    obtain ⟨found, hlength, rfl⟩ := many_answer htuple hreturned
    exact ⟨(List.length_map _).trans hlength, iff_of_false nofun hn⟩
  | count =>
    obtain rfl := binCount_answer hreturned
    exact ⟨rfl, iff_of_true ⟨_, rfl⟩ rfl⟩

theorem HasArity.closed_answer (h : HasArity compute n false)
    (hreturned : compute token args = .ok returned) :
    ∀ shape ∈ returned.toList, ∃ sizes, shape = .ofSizes sizes := by
  intro shape hshape
  cases h with
  | one sizes =>
    obtain ⟨found, rfl⟩ := one_answer hreturned
    exact ⟨found, List.mem_singleton.mp hshape⟩
  | many hn htuple =>
    obtain ⟨found, -, rfl⟩ := many_answer htuple hreturned
    obtain ⟨sizes, -, rfl⟩ := List.mem_map.mp hshape
    exact ⟨sizes, rfl⟩

theorem HasArity.open_answer (h : HasArity compute n true)
    (hreturned : compute token args = .ok returned) : returned = .one (.unknownVector token) := by
  cases h
  exact binCount_answer hreturned

end Answers

/-! ## Declarations, family by family -/

/-- The operator that counts each number. -/
def countOp : OpName :=
  aten "bincount"

/-- **The declaration of a function is right**: the number of results goes with the name, and it is
that of the computation, which leaves a size open for one operator only. -/
def Declared (function : ShapeFunction) : Prop :=
  Operator.outputCount function.op.text = function.signature.returns ∧
    HasArity function.compute function.signature.returns (function.op = countOp)

@[simp] theorem declared_entry {op : OpName} {params : List Param} {returns : Nat}
    {compute : Nat → ShapeArgs → ShapeResult (Returned Shape)} {invocations : List Invocation} :
    Declared (entry op params returns compute invocations) ↔
      Operator.outputCount op.text = returns ∧ HasArity compute returns (op = countOp) := Iff.rfl

@[simp] theorem declared_markExempt {function : ShapeFunction} :
    Declared function.markExempt ↔ Declared function := Iff.rfl

@[simp] theorem text_aten (name : String) : (aten name).text = "aten::" ++ name := rfl

@[simp] theorem text_atenOverload (name overload : String) :
    (atenOverload name overload).text = "aten::" ++ name ++ "." ++ overload := rfl

@[simp] theorem text_mk (scope name overload : String) :
    (OpName.mk scope name (some overload)).text = scope ++ "::" ++ name ++ "." ++ overload := rfl

@[simp] theorem aten_eq_countOp {name : String} : aten name = countOp ↔ name = "bincount" := by
  simp [countOp, aten]

@[simp] theorem mk_ne_countOp {scope name overload : String} :
    OpName.mk scope name (some overload) ≠ countOp := by
  simp [countOp, aten]

@[simp] theorem atenOverload_ne_countOp {name overload : String} :
    atenOverload name overload ≠ countOp :=
  mk_ne_countOp

/-- **All declarations are right.** -/
theorem declared_functions : ∀ function ∈ functions, Declared function := by
  apply forall_functions
  · simp [unaryFamily, Operator.outputCount, plainOps, or_imp, forall_and]
  · simp [backwardFamily, Operator.outputCount]
  · simp [convertFamily, Operator.outputCount]
  · simp [scalarFamily, Operator.outputCount, scalarOps, scaledScalarOps, scalarEntry,
      scaledScalarEntry, or_imp, forall_and]
  · simp [broadcastFamily, Operator.outputCount, pairOps, scaledSumEntry, pairEntry, addedEntry,
      or_imp, forall_and]
  · simp [reduceFamily, Operator.outputCount, truthEntry, totalEntry, spreadEntry, dimsEntry]
  · simp [matmulFamily, Operator.outputCount]
  · simp [layoutFamily, Operator.outputCount, viewEntry]
  · simp [creationFamily, Operator.outputCount, filledEntry, likeEntry, newEntry]
  · simp [indexFamily, Operator.outputCount]
  · simp [padFamily, Operator.outputCount]
  · simp [inPlaceFamily, Operator.outputCount]
  · simp [convFamily, Operator.outputCount]
  · simp [poolFamily, Operator.outputCount]
  · simp [softmaxFamily, Operator.outputCount, softmaxOfHalvesEntry, softmaxEntry,
      softmaxGradientEntry]
  · simp [normFamily, Operator.outputCount]
  · simp [lossFamily, Operator.outputCount]

/-! ## Calls -/

/-- **What is declared is what is answered**, by every built-in function in every call that
succeeds.  There are as many shapes as results are declared; the answer is a single shape, and no
tuple, exactly if one result is declared; and all sizes are fixed, so that the sizes of a shape can
be found.  The count of each number alone answers with a vector of open length, whose sizes cannot
be found.  Where the reference oracle answers a call of the same operator, it has as many tensors,
whatever floats it draws. -/
theorem results_as_declared (function : ShapeFunction) (hfunction : function ∈ functions) :
    (∀ token args returned, function.call token args = .ok returned →
      returned.toList.length = function.signature.returns ∧
      ((∃ shape, returned = .one shape) ↔ function.signature.returns = 1) ∧
      (function.op ≠ countOp → ∀ shape ∈ returned.toList,
        (∀ dim ∈ shape.dims, ∃ size, dim = .fixed size) ∧
          ∃ sizes, Rule.concrete shape = .ok sizes) ∧
      (function.op = countOp → ∃ shape, returned = .one shape ∧ shape.dims = [.unknown token] ∧
        Rule.concrete shape = Checked.refuse .unknownDim)) ∧
    ∀ (draws : Draws) (registry : Registry) (args : CallArgs RealTensor)
      (returned : Returned RealTensor),
      Oracle.drawing draws registry function.op args = .ok returned →
        returned.toList.length = function.signature.returns := by
  obtain ⟨hname, harity⟩ := declared_functions function hfunction
  constructor
  · intro token args returned hcall
    obtain ⟨bound, -, hreturned⟩ := bind_eq_ok.mp hcall
    obtain ⟨hlength, hone⟩ := harity.count_answer hreturned
    refine ⟨hlength, hone, ?_, ?_⟩
    · intro hop shape hshape
      rw [decide_eq_false hop] at harity
      obtain ⟨sizes, rfl⟩ := harity.closed_answer hreturned shape hshape
      refine ⟨?_, sizes, Rule.concrete_ofSizes sizes⟩
      intro dim hdim
      obtain ⟨size, -, rfl⟩ := List.mem_map.mp hdim
      exact ⟨size, rfl⟩
    · intro hop
      rw [decide_eq_true hop] at harity
      exact ⟨_, harity.open_answer hreturned, rfl, Rule.concrete_unknownVector token⟩
  · intro draws registry args returned hreference
    have hcount := Oracle.count_drawing draws registry function.op args
    rw [hname] at hcount
    exact (answersIf_iff.mp hcount).2 returned hreference

/-- The loss of each of two samples, and the total weight: two results, as declared. -/
theorem results_as_declared_loss :
    lossFamily[0] ∈ functions ∧
      ∃ returned,
        lossFamily[0].call 0 {
          positional := [.tensor [2, 3], .tensor [2], .none, .int 0, .int (-100)]
          keywords := [] } = .ok returned ∧
        returned.toList.length = 2 ∧ ¬∃ shape, returned = .one shape := by
  have hmem : lossFamily[0] ∈ functions := List.mem_append_right _ (List.getElem_mem _)
  have hcall : lossFamily[0].call 0 {
      positional := [.tensor [2, 3], .tensor [2], .none, .int 0, .int (-100)]
      keywords := [] } = .ok (.many [.ofSizes [2], .ofSizes []]) := rfl
  obtain ⟨hlength, hone, -⟩ := (results_as_declared lossFamily[0] hmem).1 0 _ _ hcall
  exact ⟨hmem, _, hcall, hlength, mt hone.mp (by decide)⟩

end Builtin

end OpShape
