/-
# `OpShape.Proofs.Call.SameCall` — both readings of an invocation are the same call.

An invocation stands for one call, in which tensors are described.  Where no keyword holds a tensor,
a reading is this call with something else in the place of each description, and nothing else is
moved, dropped or changed.  So the call with sizes is the call with tensors, seen through the sizes
of its tensors, and it stays so when the arguments are bound to parameters.
-/
import OpShape.Proofs.Call.Bind
import OpShape.Proofs.Call.Projection

namespace OpShape

variable {τ υ φ : Type}

/-! ## Replacing tensors -/

mutual

/-- Tensors that are replaced twice are replaced once, by the composite. -/
theorem Arg.map_map (f : τ → υ) (g : υ → φ) :
    ∀ arg : Arg τ, (arg.map f).map g = arg.map fun value => g (f value)
  | .tensor _ => rfl
  | .int _ => rfl
  | .float _ => rfl
  | .bool _ => rfl
  | .str _ => rfl
  | .none => rfl
  | .list items => congrArg Arg.list (Arg.mapItems_mapItems f g items)

theorem Arg.mapItems_mapItems (f : τ → υ) (g : υ → φ) :
    ∀ items : List (Arg τ),
      mapItems g (mapItems f items) = mapItems (fun value => g (f value)) items
  | [] => rfl
  | item :: items => congrArg₂ List.cons (Arg.map_map f g item) (Arg.mapItems_mapItems f g items)

end

mutual

/-- **An argument that holds no tensor is carried over as it is**, whatever would stand for its
tensors. -/
theorem Arg.withoutTensors?_eq_some (f : τ → υ) :
    ∀ arg : Arg τ, ¬ arg.HoldsTensor → arg.withoutTensors? = some (arg.map f)
  | .tensor value, h => absurd (.tensor value) h
  | .int _, _ => rfl
  | .float _, _ => rfl
  | .bool _, _ => rfl
  | .str _, _ => rfl
  | .none, _ => rfl
  | .list items, h => by
    have hitems : ∀ item ∈ items, ¬ item.HoldsTensor := fun item hmem hitem => h (.item hmem hitem)
    rw [Arg.withoutTensors?, Arg.itemsWithoutTensors?_eq_some f items hitems]
    rfl

theorem Arg.itemsWithoutTensors?_eq_some (f : τ → υ) :
    ∀ items : List (Arg τ), (∀ item ∈ items, ¬ item.HoldsTensor) →
      itemsWithoutTensors? items = some (mapItems f items)
  | [], _ => rfl
  | item :: items, h => by
    rw [List.forall_mem_cons] at h
    rw [Arg.itemsWithoutTensors?, Arg.withoutTensors?_eq_some f item h.1,
      Arg.itemsWithoutTensors?_eq_some f items h.2]
    rfl

end

theorem CallArgs.map_map (f : τ → υ) (g : υ → φ) (args : CallArgs τ) :
    (args.map f).map g = args.map fun value => g (f value) := by
  unfold CallArgs.map
  simp only [List.map_map, Function.comp_def, Arg.map_map]

/-! ## Readings -/

namespace Invocation

/-- The call that the invocation stands for, with descriptions in the place of tensors. -/
def call (invocation : Invocation) : CallArgs Placeholder where
  positional := invocation.args
  keywords := invocation.kwargs

/-- **A reading is the call itself, with each description replaced**, and it is there exactly if no
keyword holds a tensor. -/
theorem project_eq_ok {invocation : Invocation} {convert : Placeholder → τ} {call : CallArgs τ} :
    invocation.project convert = .ok call ↔
      invocation.KeywordsTensorless ∧ call = invocation.call.map convert := by
  have hread : invocation.KeywordsTensorless →
      invocation.project convert = .ok (invocation.call.map convert) := by
    intro h
    have hkeywords : invocation.kwargs.mapM (readKeyword (τ := τ)) =
        .ok (invocation.kwargs.map fun keyword => (keyword.1, keyword.2.map convert)) := by
      rw [mapM_eq_ok, List.forall₂_map_right_iff, List.forall₂_same]
      intro keyword hkeyword
      rw [readKeyword, Arg.withoutTensors?_eq_some convert keyword.2 (h keyword hkeyword)]
    rw [project_eq, hkeywords]
    rfl
  constructor
  · intro hcall
    have htensorless := project_answers.mp ⟨call, hcall⟩
    exact ⟨htensorless, Except.ok.inj (hcall.symm.trans (hread htensorless))⟩
  · rintro ⟨htensorless, rfl⟩
    exact hread htensorless

/-- **Two readings differ in what stands for a tensor only.** -/
theorem project_map (invocation : Invocation) (convert : Placeholder → τ) (f : τ → υ) :
    invocation.project (fun placeholder => f (convert placeholder)) =
      (invocation.project convert).map (CallArgs.map f) := by
  cases hread : invocation.project convert with
  | error reason => exact project_eq_error.mpr (project_eq_error.mp hread)
  | ok call =>
    obtain ⟨htensorless, rfl⟩ := project_eq_ok.mp hread
    refine project_eq_ok.mpr ⟨htensorless, ?_⟩
    rw [CallArgs.map_map]

/-- The sizes of a described tensor are those of the description, so that the call with sizes is the
call with tensors seen through their sizes. -/
theorem shapeArgs_eq_map (invocation : Invocation) :
    invocation.shapeArgs = invocation.realArgs.map (CallArgs.map RealTensor.sizes) := by
  have hsizes : Placeholder.sizes = fun placeholder => placeholder.toTensor.sizes :=
    funext fun placeholder => placeholder.sizes_toTensor.symm
  rw [shapeArgs, hsizes, project_map]
  rfl

/-- **Both readings of an invocation are the same call.**  Each is the call of the invocation with
its descriptions replaced, and is there exactly if no keyword holds a tensor; otherwise each names
the first keyword that does.  The call with sizes is the call with tensors seen through their sizes,
and so is what any signature makes of it. -/
theorem readings_are_one_call (invocation : Invocation) :
    (∀ call, invocation.shapeArgs = .ok call ↔
      invocation.KeywordsTensorless ∧ call = invocation.call.map Placeholder.sizes) ∧
    (∀ call, invocation.realArgs = .ok call ↔
      invocation.KeywordsTensorless ∧ call = invocation.call.map Placeholder.toTensor) ∧
    (∀ reason, invocation.shapeArgs = .error reason ↔
      invocation.FirstTensorKeyword reason.name) ∧
    (∀ reason, invocation.realArgs = .error reason ↔
      invocation.FirstTensorKeyword reason.name) ∧
    invocation.shapeArgs = invocation.realArgs.map (CallArgs.map RealTensor.sizes) ∧
    ∀ signature : Signature,
      invocation.shapeArgs.map signature.bind =
        invocation.realArgs.map fun call =>
          (signature.bind call).map (BoundArgs.map RealTensor.sizes) := by
  refine ⟨fun _ => project_eq_ok, fun _ => project_eq_ok, fun _ => project_eq_error,
    fun _ => project_eq_error, shapeArgs_eq_map invocation, ?_⟩
  intro signature
  rw [shapeArgs_eq_map]
  cases invocation.realArgs with
  | error reason => rfl
  | ok call => exact congrArg Except.ok (signature.bind_map RealTensor.sizes call)

end Invocation

end OpShape
