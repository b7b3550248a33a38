/-
# `OpShape.Proofs.Call.Projection` — which invocations can be read at all.

An invocation is read twice, once with sizes and once with tensors in the place of its
descriptions.  Keywords are handed on as they are, so that a keyword whose argument holds a tensor,
at whatever depth, stops both readings.  What is left of the module says that it is the *first* such
keyword that is named, and that nothing else can stop a reading.
-/
import OpShape.Invocation
import OpShape.Proofs.Outcome

namespace OpShape

variable {τ υ : Type}

/-! ## Tensors at any depth -/

/-- An argument holds a tensor: it is one, or it is a list with an item that holds one. -/
inductive Arg.HoldsTensor : Arg τ → Prop
  | tensor (value : τ) : HoldsTensor (.tensor value)
  | item {items : List (Arg τ)} {item : Arg τ} :
      item ∈ items → HoldsTensor item → HoldsTensor (.list items)

theorem Arg.holdsTensor_list {items : List (Arg τ)} :
    (Arg.list items).HoldsTensor ↔ ∃ item ∈ items, item.HoldsTensor := by
  constructor
  · intro h
    cases h with
    | item hmem hitem => exact ⟨_, hmem, hitem⟩
  · rintro ⟨item, hmem, hitem⟩
    exact .item hmem hitem

mutual

/-- **An argument is carried over exactly if it holds no tensor.** -/
theorem Arg.withoutTensors?_eq_none :
    ∀ arg : Arg τ, (arg.withoutTensors? : Option (Arg υ)) = Option.none ↔ arg.HoldsTensor
  | .tensor value => by
    simp only [Arg.withoutTensors?, true_iff]
    exact .tensor value
  | .int _ => by simp only [Arg.withoutTensors?, reduceCtorEq, false_iff]; rintro ⟨⟩
  | .float _ => by simp only [Arg.withoutTensors?, reduceCtorEq, false_iff]; rintro ⟨⟩
  | .bool _ => by simp only [Arg.withoutTensors?, reduceCtorEq, false_iff]; rintro ⟨⟩
  | .str _ => by simp only [Arg.withoutTensors?, reduceCtorEq, false_iff]; rintro ⟨⟩
  | .none => by simp only [Arg.withoutTensors?, reduceCtorEq, false_iff]; rintro ⟨⟩
  | .list items => by
    simp only [Arg.withoutTensors?, Option.map_eq_none_iff, Arg.holdsTensor_list]
    exact Arg.itemsWithoutTensors?_eq_none items

theorem Arg.itemsWithoutTensors?_eq_none :
    ∀ items : List (Arg τ),
      (Arg.itemsWithoutTensors? items : Option (List (Arg υ))) = Option.none ↔
        ∃ item ∈ items, item.HoldsTensor
  | [] => by simp [Arg.itemsWithoutTensors?]
  | item :: items => by
    have hitem := Arg.withoutTensors?_eq_none item
    have hitems := Arg.itemsWithoutTensors?_eq_none items
    simp only [List.mem_cons, exists_eq_or_imp]
    rw [← hitem, ← hitems]
    simp only [Arg.itemsWithoutTensors?]
    -- The list stops at its first item that cannot be carried over.
    cases (item.withoutTensors? : Option (Arg υ)) with
    | none => simp
    | some value =>
      cases (Arg.itemsWithoutTensors? items : Option (List (Arg υ))) <;> simp

end

/-! ## Readings of an invocation -/

namespace Invocation

/-- No keyword of the invocation holds a tensor. -/
def KeywordsTensorless (invocation : Invocation) : Prop :=
  ∀ keyword ∈ invocation.kwargs, ¬ keyword.2.HoldsTensor

/-- A keyword that holds a tensor while those before it do not. -/
def FirstTensorKeyword (invocation : Invocation) (name : String) : Prop :=
  ∃ before arg after, invocation.kwargs = before ++ (name, arg) :: after ∧
    (∀ keyword ∈ before, ¬ keyword.2.HoldsTensor) ∧ arg.HoldsTensor

/-- How one keyword is carried over. -/
def readKeyword (keyword : String × Arg Placeholder) :
    Except TensorKeyword (String × Arg τ) :=
  match keyword.2.withoutTensors? with
  | some value => .ok (keyword.1, value)
  | none => .error { name := keyword.1 }

theorem project_eq (invocation : Invocation) (convert : Placeholder → τ) :
    invocation.project convert =
      (do
        let keywords ← invocation.kwargs.mapM readKeyword
        .ok { positional := invocation.args.map (Arg.map convert), keywords }) := rfl

theorem readKeyword_answers {keyword : String × Arg Placeholder} :
    (∃ value, (readKeyword keyword : Except TensorKeyword (String × Arg τ)) = .ok value) ↔
      ¬ keyword.2.HoldsTensor := by
  rw [← Arg.withoutTensors?_eq_none (υ := τ), readKeyword]
  cases (keyword.2.withoutTensors? : Option (Arg τ)) <;> simp

theorem readKeyword_eq_error {keyword : String × Arg Placeholder} {reason : TensorKeyword} :
    (readKeyword keyword : Except TensorKeyword (String × Arg τ)) = .error reason ↔
      keyword.2.HoldsTensor ∧ reason = { name := keyword.1 } := by
  rw [← Arg.withoutTensors?_eq_none (υ := τ), readKeyword]
  cases (keyword.2.withoutTensors? : Option (Arg τ)) with
  | none => simp [eq_comm]
  | some value => simp

/-- **A reading succeeds exactly if no keyword holds a tensor.** -/
theorem project_answers {invocation : Invocation} {convert : Placeholder → τ} :
    (∃ call, invocation.project convert = .ok call) ↔ invocation.KeywordsTensorless := by
  have hrun : (∃ call, invocation.project convert = .ok call) ↔
      ∃ keywords, invocation.kwargs.mapM (readKeyword (τ := τ)) = .ok keywords := by
    rw [project_eq]
    cases invocation.kwargs.mapM (readKeyword (τ := τ)) <;> simp [bind, Except.bind]
  rw [hrun, KeywordsTensorless]
  simp only [← readKeyword_answers (τ := τ), mapM_eq_ok]
  constructor
  · rintro ⟨keywords, h⟩ keyword hmem
    obtain ⟨value, -, hvalue⟩ := exists_of_forall₂_left h hmem
    exact ⟨value, hvalue⟩
  · intro h
    exact exists_forall₂_of_forall h

/-- **A reading fails exactly if some keyword holds a tensor**, and it names the first one. -/
theorem project_eq_error {invocation : Invocation} {convert : Placeholder → τ}
    {reason : TensorKeyword} :
    invocation.project convert = .error reason ↔ invocation.FirstTensorKeyword reason.name := by
  have hrun : invocation.project convert = .error reason ↔
      invocation.kwargs.mapM (readKeyword (τ := τ)) = .error reason := by
    rw [project_eq]
    cases invocation.kwargs.mapM (readKeyword (τ := τ)) <;> simp [bind, Except.bind]
  rw [hrun, mapM_eq_error, FirstTensorKeyword]
  simp only [readKeyword_answers, readKeyword_eq_error]
  constructor
  · rintro ⟨before, ⟨name, arg⟩, after, hkwargs, hbefore, harg, rfl⟩
    exact ⟨before, arg, after, hkwargs, hbefore, harg⟩
  · rintro ⟨before, arg, after, hkwargs, hbefore, harg⟩
    exact ⟨before, (reason.name, arg), after, hkwargs, hbefore, harg, rfl⟩

end Invocation

end OpShape
