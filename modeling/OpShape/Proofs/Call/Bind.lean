/-
# `OpShape.Proofs.Call.Bind` — binding does not look at tensors.

The same call is bound twice, with sizes and with tensors in the place of its tensors.  Both
bindings go the same way: they give each parameter the same argument up to what stands for a tensor,
or they refuse for the same reason.  The same holds of what is asked of bound arguments afterwards.
-/
import OpShape.Call.Bind
import OpShape.Proofs.Outcome

namespace OpShape

variable {τ υ : Type}

/-- Put something else in the place of each tensor of bound arguments. -/
def BoundArgs.map (f : τ → υ) (bound : BoundArgs τ) : BoundArgs υ where
  values := bound.values.map fun value => (value.1, value.2.map f)

theorem Default.map_toArg (f : τ → υ) (default : Default) :
    (default.toArg : Arg τ).map f = default.toArg := by
  cases default with
  | intList values =>
    show Arg.list (Arg.mapItems f (values.map Arg.int)) = Arg.list (values.map Arg.int)
    rw [Arg.mapItems_eq_map, List.map_map]
    rfl
  | none => rfl
  | int value => rfl
  | float value => rfl
  | bool value => rfl
  | str value => rfl

/-! ## Binding -/

namespace Signature

/-- Put something else in the place of the tensor of a slot. -/
def Slot.map (f : τ → υ) (slot : Slot τ) : Slot υ :=
  (slot.1, slot.2.map (Arg.map f))

theorem fillPositional_map (f : τ → υ) (params : List Param) (args : List (Arg τ)) :
    fillPositional params (args.map (Arg.map f)) =
      (fillPositional params args).map (Slot.map f) := by
  induction params generalizing args with
  | nil => cases args <;> rfl
  | cons param params ih =>
    cases args with
    | nil =>
      show (param, none) :: fillPositional params ([].map (Arg.map f)) = _
      rw [ih]
      rfl
    | cons arg args =>
      show (param, some (arg.map f)) :: fillPositional params (args.map (Arg.map f)) = _
      rw [ih]
      rfl

theorem fillKeyword_map (f : τ → υ) (name : String) (value : Arg τ) (slots : List (Slot τ)) :
    fillKeyword name (value.map f) (slots.map (Slot.map f)) =
      (fillKeyword name value slots).map (List.map (Slot.map f)) := by
  induction slots with
  | nil => rfl
  | cons slot slots ih =>
    obtain ⟨param, arg⟩ := slot
    show fillKeyword name (value.map f) ((param, arg.map (Arg.map f)) :: slots.map (Slot.map f)) = _
    unfold fillKeyword
    by_cases hname : param.name = name
    · cases arg <;> simp [hname, Slot.map, Except.map]
    · rw [if_neg hname, if_neg hname, ih]
      cases fillKeyword name value slots <;> rfl

theorem fillKeywords_map (f : τ → υ) (keywords : List (String × Arg τ)) (slots : List (Slot τ)) :
    (keywords.map fun keyword => (keyword.1, keyword.2.map f)).foldlM
        (fun slots keyword => fillKeyword keyword.1 keyword.2 slots) (slots.map (Slot.map f)) =
      (keywords.foldlM (fun slots keyword => fillKeyword keyword.1 keyword.2 slots) slots).map
        (List.map (Slot.map f)) := by
  induction keywords generalizing slots with
  | nil => rfl
  | cons keyword keywords ih =>
    rw [List.map_cons, List.foldlM_cons, List.foldlM_cons, fillKeyword_map]
    cases fillKeyword keyword.1 keyword.2 slots with
    | error e => rfl
    | ok slots => exact ih slots

theorem slotValue_map (f : τ → υ) (slot : Slot τ) :
    slotValue (slot.map f) = (slotValue slot).map fun value => (value.1, value.2.map f) := by
  obtain ⟨param, arg⟩ := slot
  cases arg with
  | some arg => rfl
  | none =>
    unfold slotValue Slot.map
    cases hdefault : param.default with
    | none => simp [hdefault, Except.map]
    | some default => simp [hdefault, Except.map, Default.map_toArg]

theorem slotValues_map (f : τ → υ) (slots : List (Slot τ)) :
    (slots.map (Slot.map f)).mapM slotValue =
      (slots.mapM slotValue).map (List.map fun value => (value.1, value.2.map f)) := by
  induction slots with
  | nil => rfl
  | cons slot slots ih =>
    rw [List.map_cons, List.mapM_cons, List.mapM_cons, slotValue_map, ih]
    cases slotValue slot with
    | error e => rfl
    | ok value => cases slots.mapM slotValue <;> rfl

/-- **Binding does not look at tensors.** -/
theorem bind_map (f : τ → υ) (signature : Signature) (args : CallArgs τ) :
    signature.bind (args.map f) = (signature.bind args).map (BoundArgs.map f) := by
  unfold bind CallArgs.map
  simp only [List.length_map]
  by_cases htoo : signature.params.length < args.positional.length
  · simp only [htoo, if_true]
    rfl
  · simp only [htoo, if_false]
    rw [fillPositional_map]
    show (do
      let slots : List (Slot υ) ← List.foldlM _ _ _
      let values ← slots.mapM slotValue
      Except.ok ({ values } : BoundArgs υ)) = _
    rw [fillKeywords_map]
    cases args.keywords.foldlM (fun slots keyword => fillKeyword keyword.1 keyword.2 slots)
      (fillPositional signature.params args.positional) with
    | error e => rfl
    | ok slots =>
      show (do
        let values ← (slots.map (Slot.map f)).mapM slotValue
        Except.ok ({ values } : BoundArgs υ)) = _
      rw [slotValues_map]
      show _ = Except.map _ (do
        let values ← slots.mapM slotValue
        Except.ok ({ values } : BoundArgs τ))
      cases slots.mapM slotValue <;> rfl

end Signature

/-! ## Bound arguments -/

namespace BoundArgs

variable {α β : Type}

theorem arg_map (f : τ → υ) (bound : BoundArgs τ) (name : String) :
    (bound.map f).arg name = (bound.arg name).map (Arg.map f) := by
  unfold arg map
  rw [List.find?_map]
  have hname : ((fun value : String × Arg υ => decide (value.1 = name)) ∘
      fun value : String × Arg τ => (value.1, value.2.map f)) =
        fun value => decide (value.1 = name) := rfl
  rw [hname]
  cases bound.values.find? fun value => decide (value.1 = name) <;> rfl

/-- An argument is asked for by its name first, and then looked at. -/
theorem take_eq (bound : BoundArgs τ) (name expected : String) (view : Arg τ → Option α) :
    bound.take name expected view = (bound.arg name >>= fun arg =>
      (view arg).elim (.error (.wrongType name expected)) .ok) := by
  unfold take
  cases bound.arg name with
  | error e => rfl
  | ok arg =>
    rw [ok_bind, ok_bind]
    cases view arg <;> rfl

/-- What a view recognises in an argument is recognised in the other world too. -/
theorem take_map (f : τ → υ) (g : α → β) {view : Arg τ → Option α} {view' : Arg υ → Option β}
    (hview : ∀ arg, view' (arg.map f) = (view arg).map g) (bound : BoundArgs τ)
    (name expected : String) :
    (bound.map f).take name expected view' = (bound.take name expected view).map g := by
  rw [take_eq, take_eq, arg_map]
  cases bound.arg name with
  | error e => rfl
  | ok arg =>
    show (view' (arg.map f)).elim _ Except.ok = Except.map g ((view arg).elim _ Except.ok)
    rw [hview]
    cases view arg <;> rfl

theorem takeList_map (f : τ → υ) (g : α → β) {view : Arg τ → Option α} {view' : Arg υ → Option β}
    (hview : ∀ arg, view' (arg.map f) = (view arg).map g) (bound : BoundArgs τ)
    (name expected : String) :
    (bound.map f).takeList name expected view' =
      (bound.takeList name expected view).map (List.map g) := by
  have hitems : ∀ items : List (Arg τ),
      (items.map (Arg.map f)).mapM view' = (items.mapM view).map (List.map g) := by
    intro items
    induction items with
    | nil => rfl
    | cons item items ih =>
      rw [List.map_cons, List.mapM_cons, List.mapM_cons, hview, ih]
      cases view item with
      | none => rfl
      | some value => cases items.mapM view <;> rfl
  refine take_map f (List.map g) (fun arg => ?_) bound name expected
  cases arg with
  | list items =>
    show (Arg.mapItems f items).mapM view' = (items.mapM view).map (List.map g)
    rw [Arg.mapItems_eq_map, hitems]
  | tensor value => rfl
  | int value => rfl
  | float value => rfl
  | bool value => rfl
  | str value => rfl
  | none => rfl

/-- Where no tensor is asked for, both worlds give the same. -/
theorem take_same (f : τ → υ) {view : Arg τ → Option α} {view' : Arg υ → Option α}
    (hview : ∀ arg, view' (arg.map f) = view arg) (bound : BoundArgs τ) (name expected : String) :
    (bound.map f).take name expected view' = bound.take name expected view := by
  have hid : ∀ arg, view' (arg.map f) = (view arg).map id := fun arg => by
    rw [hview, Option.map_id, id]
  rw [take_map f id hid]
  exact congrFun Except.map_id _

theorem takeList_same (f : τ → υ) {view : Arg τ → Option α} {view' : Arg υ → Option α}
    (hview : ∀ arg, view' (arg.map f) = view arg) (bound : BoundArgs τ) (name expected : String) :
    (bound.map f).takeList name expected view' = bound.takeList name expected view := by
  have hid : ∀ arg, view' (arg.map f) = (view arg).map id := fun arg => by
    rw [hview, Option.map_id, id]
  rw [takeList_map f id hid, List.map_id_fun]
  exact congrFun Except.map_id _

section

variable (f : τ → υ) (bound : BoundArgs τ) (name : String)

theorem tensor_map : (bound.map f).tensor name = (bound.tensor name).map f :=
  take_map f f (fun arg => by cases arg <;> rfl) bound name _

theorem optTensor_map :
    (bound.map f).optTensor name = (bound.optTensor name).map (Option.map f) :=
  take_map f (Option.map f) (fun arg => by cases arg <;> rfl) bound name _

theorem tensors_map : (bound.map f).tensors name = (bound.tensors name).map (List.map f) :=
  takeList_map f f (fun arg => by cases arg <;> rfl) bound name _

theorem optTensors_map :
    (bound.map f).optTensors name = (bound.optTensors name).map (List.map (Option.map f)) :=
  takeList_map f (Option.map f) (fun arg => by cases arg <;> rfl) bound name _

theorem int_map : (bound.map f).int name = bound.int name :=
  take_same f (fun arg => by cases arg <;> rfl) bound name _

theorem optInt_map : (bound.map f).optInt name = bound.optInt name :=
  take_same f (fun arg => by cases arg <;> rfl) bound name _

theorem float_map : (bound.map f).float name = bound.float name :=
  take_same f (fun arg => by cases arg <;> rfl) bound name _

theorem optFloat_map : (bound.map f).optFloat name = bound.optFloat name := by
  unfold optFloat
  rw [arg_map, float_map]
  cases bound.arg name with
  | error e => rfl
  | ok arg => cases arg <;> rfl

theorem bool_map : (bound.map f).bool name = bound.bool name :=
  take_same f (fun arg => by cases arg <;> rfl) bound name _

theorem str_map : (bound.map f).str name = bound.str name :=
  take_same f (fun arg => by cases arg <;> rfl) bound name _

theorem ints_map : (bound.map f).ints name = bound.ints name :=
  takeList_same f (fun arg => by cases arg <;> rfl) bound name _

theorem optInts_map : (bound.map f).optInts name = bound.optInts name := by
  unfold optInts
  rw [arg_map, ints_map]
  cases bound.arg name with
  | error e => rfl
  | ok arg => cases arg <;> rfl

end

end BoundArgs

end OpShape
