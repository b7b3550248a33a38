/-
# `OpShape.Proofs.Call.Kind` — calls that are well typed, and calls whose numbers are words.

A call is well typed if every bound argument has the kind that its parameter names.  Apart from
that, an integer of a call is a signed word, and the sizes of its tensors lie below some limit: 2⁶⁴
if any word may be a size, 2⁶³ if a size has to be a signed word as well.
-/
import OpShape.Call.Bind
import OpShape.Tensor.Basic
import OpShape.Proofs.Outcome

namespace OpShape

variable {τ : Type}

/-! ## Kinds -/

/-- The argument is of the kind.  A float may be given as an integer, and a device is a text. -/
def ArgType.Admits : ArgType → Arg τ → Prop
  | tensor, arg => ∃ value, arg = .tensor value
  | optTensor, arg => arg = .none ∨ ∃ value, arg = .tensor value
  | tensorList, arg => ∃ values : List τ, arg = .list (values.map .tensor)
  | optTensorList, arg => ∃ values : List (Option τ),
      arg = .list (values.map fun value => value.elim .none .tensor)
  | int, arg => ∃ value, arg = .int value
  | optInt, arg => arg = .none ∨ ∃ value, arg = .int value
  | intList, arg => ∃ values : List Int, arg = .list (values.map .int)
  | optIntList, arg => arg = .none ∨ ∃ values : List Int, arg = .list (values.map .int)
  | float, arg => (∃ value, arg = .float value) ∨ ∃ value, arg = .int value
  | optFloat, arg => arg = .none ∨ (∃ value, arg = .float value) ∨ ∃ value, arg = .int value
  | bool, arg => ∃ value, arg = .bool value
  | optBool, arg => arg = .none ∨ ∃ value, arg = .bool value
  | str, arg => ∃ value, arg = .str value
  | optStr, arg => arg = .none ∨ ∃ value, arg = .str value
  | device, arg => ∃ value, arg = .str value
  | optDevice, arg => arg = .none ∨ ∃ value, arg = .str value
  | any, _ => True

/-- Every parameter is bound, in order, to an argument of its kind. -/
def Signature.WellTyped (signature : Signature) (bound : BoundArgs τ) : Prop :=
  List.Forall₂ (fun param value => value.1 = param.name ∧ param.type.Admits value.2)
    signature.params bound.values

/-- In a well typed call a parameter is bound to an argument of its kind. -/
theorem Signature.WellTyped.arg {signature : Signature} {bound : BoundArgs τ}
    (h : signature.WellTyped bound) {name : String} {param : Param}
    (hparam : (signature.params.find? fun param => param.name = name) = some param) :
    ∃ arg, bound.arg name = .ok arg ∧ param.type.Admits arg := by
  have hfind : ∃ value, (bound.values.find? fun value => value.1 = name) = some value ∧
      param.type.Admits value.2 := by
    unfold WellTyped at h
    -- Parameters and bound values are gone through side by side: their names are the same.
    generalize signature.params = params at h hparam
    generalize bound.values = values at h
    induction h with
    | nil => cases hparam
    | @cons first value params values hfirst _ ih =>
      obtain ⟨hname, hadmits⟩ := hfirst
      by_cases hfound : first.name = name
      · rw [List.find?_cons_of_pos (by simpa using hfound)] at hparam
        obtain rfl := Option.some.inj hparam
        refine ⟨value, ?_, hadmits⟩
        exact List.find?_cons_of_pos (by simpa [hname] using hfound)
      · rw [List.find?_cons_of_neg (by simpa using hfound)] at hparam
        rw [List.find?_cons_of_neg (by simpa [hname] using hfound)]
        exact ih hparam
  obtain ⟨value, hvalue, hadmits⟩ := hfind
  refine ⟨value.2, ?_, hadmits⟩
  rw [BoundArgs.arg, hvalue]

/-- A well typed call binds nothing but its parameters. -/
theorem Signature.WellTyped.unknown {signature : Signature} {bound : BoundArgs τ} (name : String)
    (h : signature.WellTyped bound)
    (hparam : (signature.params.find? fun param => param.name = name) = none) :
    bound.arg name = .error (.unknownParameter name) := by
  have hfind : (bound.values.find? fun value => value.1 = name) = none := by
    rw [List.find?_eq_none] at hparam ⊢
    intro value hvalue
    obtain ⟨param, hmem, hname, -⟩ := exists_of_forall₂_right h hvalue
    rw [hname]
    exact hparam param hmem
  rw [BoundArgs.arg, hfind]

theorem BoundArgs.take_eq_ok {α : Type} {name expected : String} {view : Arg τ → Option α}
    {bound : BoundArgs τ} {value : α} :
    bound.take name expected view = .ok value ↔
      ∃ arg, bound.arg name = .ok arg ∧ view arg = some value := by
  unfold take
  cases bound.arg name with
  | error e => simp [bind, Except.bind]
  | ok arg => cases hview : view arg <;> simp [bind, Except.bind, hview]

section Asked

variable {signature : Signature} {bound : BoundArgs τ} (name : String) {param : Param}

/-- What a well typed call is asked for is there, if every argument of its kind has the form that
is asked for. -/
theorem Signature.WellTyped.take {α : Type} (h : signature.WellTyped bound) (expected : String)
    {view : Arg τ → Option α}
    (hparam : (signature.params.find? fun param => param.name = name) = some param)
    (hview : ∀ arg, param.type.Admits arg → ∃ value, view arg = some value) :
    ∃ value, bound.take name expected view = .ok value := by
  obtain ⟨arg, harg, hadmits⟩ := h.arg hparam
  obtain ⟨value, hvalue⟩ := hview arg hadmits
  exact ⟨value, BoundArgs.take_eq_ok.mpr ⟨arg, harg, hvalue⟩⟩

/-- A tensor that a well typed call is asked for is there. -/
theorem Signature.WellTyped.tensor (h : signature.WellTyped bound)
    (hparam : (signature.params.find? fun param => param.name = name) = some param)
    (htype : param.type = .tensor) : ∃ tensor, bound.tensor name = .ok tensor := by
  refine h.take name _ hparam fun arg hadmits => ?_
  rw [htype] at hadmits
  obtain ⟨tensor, rfl⟩ := hadmits
  exact ⟨tensor, rfl⟩

/-- A tensor or none that a well typed call is asked for is there. -/
theorem Signature.WellTyped.optTensor (h : signature.WellTyped bound)
    (hparam : (signature.params.find? fun param => param.name = name) = some param)
    (htype : param.type = .optTensor) : ∃ tensor, bound.optTensor name = .ok tensor := by
  refine h.take name _ hparam fun arg hadmits => ?_
  rw [htype] at hadmits
  rcases hadmits with rfl | ⟨tensor, rfl⟩
  · exact ⟨none, rfl⟩
  · exact ⟨some tensor, rfl⟩

/-- An integer that a well typed call is asked for is there. -/
theorem Signature.WellTyped.int (h : signature.WellTyped bound)
    (hparam : (signature.params.find? fun param => param.name = name) = some param)
    (htype : param.type = .int) : ∃ value, bound.int name = .ok value := by
  refine h.take name _ hparam fun arg hadmits => ?_
  rw [htype] at hadmits
  obtain ⟨value, rfl⟩ := hadmits
  exact ⟨value, rfl⟩

/-- A flag that a well typed call is asked for is there. -/
theorem Signature.WellTyped.bool (h : signature.WellTyped bound)
    (hparam : (signature.params.find? fun param => param.name = name) = some param)
    (htype : param.type = .bool) : ∃ value, bound.bool name = .ok value := by
  refine h.take name _ hparam fun arg hadmits => ?_
  rw [htype] at hadmits
  obtain ⟨value, rfl⟩ := hadmits
  exact ⟨value, rfl⟩

/-- An integer or none that a well typed call is asked for is there. -/
theorem Signature.WellTyped.optInt (h : signature.WellTyped bound)
    (hparam : (signature.params.find? fun param => param.name = name) = some param)
    (htype : param.type = .optInt) : ∃ value, bound.optInt name = .ok value := by
  refine h.take name _ hparam fun arg hadmits => ?_
  rw [htype] at hadmits
  rcases hadmits with rfl | ⟨value, rfl⟩
  · exact ⟨none, rfl⟩
  · exact ⟨some value, rfl⟩

/-- A float that a well typed call is asked for is there, and may be given as an integer. -/
theorem Signature.WellTyped.float (h : signature.WellTyped bound)
    (hparam : (signature.params.find? fun param => param.name = name) = some param)
    (htype : param.type = .float) : ∃ value, bound.float name = .ok value := by
  refine h.take name _ hparam fun arg hadmits => ?_
  rw [htype] at hadmits
  rcases hadmits with ⟨value, rfl⟩ | ⟨value, rfl⟩
  · exact ⟨value, rfl⟩
  · exact ⟨Float.ofInt value, rfl⟩

/-- A list is read as it is if each of its entries is. -/
theorem mapM_view {α : Type} {view : Arg τ → Option α} {form : α → Arg τ}
    (hview : ∀ value, view (form value) = some value) (values : List α) :
    (values.map form).mapM view = some values := by
  induction values with
  | nil => rfl
  | cons value values ih =>
    rw [List.map_cons, List.mapM_cons, ih, hview]
    rfl

/-- The integers of a list are read as they are. -/
theorem ints_eq_ok {values : List Int} (harg : bound.arg name = .ok (.list (values.map .int))) :
    bound.ints name = .ok values := by
  refine BoundArgs.take_eq_ok.mpr ⟨_, harg, ?_⟩
  exact @mapM_view τ Int _ .int (fun _ => rfl) values

/-- A float or none that a well typed call is asked for is there. -/
theorem Signature.WellTyped.optFloat (h : signature.WellTyped bound)
    (hparam : (signature.params.find? fun param => param.name = name) = some param)
    (htype : param.type = .optFloat) : ∃ value, bound.optFloat name = .ok value := by
  obtain ⟨arg, harg, hadmits⟩ := h.arg hparam
  rw [htype] at hadmits
  unfold BoundArgs.optFloat BoundArgs.float BoundArgs.take
  rw [harg]
  rcases hadmits with rfl | ⟨value, rfl⟩ | ⟨value, rfl⟩
  · exact ⟨none, rfl⟩
  · exact ⟨some value, rfl⟩
  · exact ⟨some (Float.ofInt value), rfl⟩

/-- A list of integers that a well typed call is asked for is there. -/
theorem Signature.WellTyped.ints (h : signature.WellTyped bound)
    (hparam : (signature.params.find? fun param => param.name = name) = some param)
    (htype : param.type = .intList) :
    ∃ values, bound.ints name = .ok values ∧ bound.optInts name = .ok (some values) := by
  obtain ⟨arg, harg, hadmits⟩ := h.arg hparam
  rw [htype] at hadmits
  obtain ⟨values, rfl⟩ := hadmits
  have hints : bound.ints name = .ok values := ints_eq_ok name harg
  refine ⟨values, hints, ?_⟩
  unfold BoundArgs.optInts
  rw [harg, hints]
  rfl

/-- A list of integers or none that a well typed call is asked for is there. -/
theorem Signature.WellTyped.optInts (h : signature.WellTyped bound)
    (hparam : (signature.params.find? fun param => param.name = name) = some param)
    (htype : param.type = .optIntList) : ∃ values, bound.optInts name = .ok values := by
  obtain ⟨arg, harg, hadmits⟩ := h.arg hparam
  rw [htype] at hadmits
  unfold BoundArgs.optInts
  rcases hadmits with rfl | ⟨values, rfl⟩
  · rw [harg]
    exact ⟨none, rfl⟩
  · rw [ints_eq_ok name harg, harg]
    exact ⟨some values, rfl⟩

end Asked

/-! ## Numbers that fit -/

/-- The integers in an argument are signed words, and the sizes of its tensors lie below `limit`. -/
inductive Arg.Fits (limit : Nat) : Arg RealTensor → Prop
  | tensor {tensor : RealTensor} :
      (∀ size ∈ tensor.sizes, size < limit) → Fits limit (.tensor tensor)
  | int {value : Int} : -2 ^ 63 ≤ value → value < 2 ^ 63 → Fits limit (.int value)
  | float {value : Float} : Fits limit (.float value)
  | bool {value : Bool} : Fits limit (.bool value)
  | str {value : String} : Fits limit (.str value)
  | none : Fits limit .none
  | list {items : List (Arg RealTensor)} :
      (∀ item ∈ items, Fits limit item) → Fits limit (.list items)

theorem Arg.Fits.ints {limit : Nat} (values : List Int)
    (h : ∀ value ∈ values, -2 ^ 63 ≤ value ∧ value < 2 ^ 63) :
    Arg.Fits limit (.list (values.map .int)) := by
  refine .list fun item hitem => ?_
  obtain ⟨value, hvalue, rfl⟩ := List.mem_map.mp hitem
  exact .int (h value hvalue).1 (h value hvalue).2

/-- A tensor with these sizes fits if they do. -/
theorem Arg.Fits.ofSizes {limit : Nat} {tensor : RealTensor} (sizes : Sizes)
    (hsizes : tensor.sizes = sizes) (h : ∀ size ∈ sizes, size < limit) :
    Arg.Fits limit (.tensor tensor) :=
  .tensor (hsizes ▸ h)

theorem Arg.Fits.mono {limit higher : Nat} (hle : limit ≤ higher) {arg : Arg RealTensor}
    (h : arg.Fits limit) : arg.Fits higher := by
  induction h with
  | tensor hsizes => exact .tensor fun size hsize => Nat.lt_of_lt_of_le (hsizes size hsize) hle
  | int hlow hhigh => exact .int hlow hhigh
  | float => exact .float
  | bool => exact .bool
  | str => exact .str
  | none => exact .none
  | list _ ih => exact .list ih

/-- The numbers in all bound arguments fit. -/
def BoundArgs.Fits (limit : Nat) (bound : BoundArgs RealTensor) : Prop :=
  ∀ value ∈ bound.values, value.2.Fits limit

namespace BoundArgs

variable {α : Type} {limit : Nat} {bound : BoundArgs RealTensor} {name expected : String}

theorem Fits.nil : BoundArgs.Fits limit { values := [] } :=
  List.forall_mem_nil _

theorem Fits.cons {value : String × Arg RealTensor} {rest : List (String × Arg RealTensor)}
    (hvalue : value.2.Fits limit) (hrest : BoundArgs.Fits limit { values := rest }) :
    BoundArgs.Fits limit { values := value :: rest } :=
  List.forall_mem_cons.mpr ⟨hvalue, hrest⟩

theorem Fits.mono {higher : Nat} (hle : limit ≤ higher) (h : bound.Fits limit) :
    bound.Fits higher :=
  fun value hvalue => (h value hvalue).mono hle

theorem Fits.arg (h : bound.Fits limit) {arg : Arg RealTensor}
    (harg : bound.arg name = .ok arg) : arg.Fits limit := by
  unfold BoundArgs.arg at harg
  split at harg
  · next value hvalue =>
    rw [← Except.ok.inj harg]
    exact h value (List.mem_of_find?_eq_some hvalue)
  · cases harg

/-- What a view makes of an argument that fits, if fitting is what the view keeps. -/
theorem Fits.take {P : α → Prop} {view : Arg RealTensor → Option α} {value : α}
    (h : bound.Fits limit) (hview : ∀ arg value, arg.Fits limit → view arg = some value → P value)
    (hvalue : bound.take name expected view = .ok value) : P value := by
  obtain ⟨arg, harg, hsome⟩ := take_eq_ok.mp hvalue
  exact hview arg value (h.arg harg) hsome

theorem Fits.takeList {P : α → Prop} {view : Arg RealTensor → Option α} {values : List α}
    (h : bound.Fits limit) (hview : ∀ arg value, arg.Fits limit → view arg = some value → P value)
    (hvalues : bound.takeList name expected view = .ok values) : ∀ value ∈ values, P value := by
  have hitems : ∀ (items : List (Arg RealTensor)) (values : List α),
      (∀ item ∈ items, item.Fits limit) → items.mapM view = some values →
        ∀ value ∈ values, P value := by
    intro items
    induction items with
    | nil =>
      intro values _ hvalues value hmem
      rw [List.mapM_nil] at hvalues
      rw [← Option.some.inj hvalues] at hmem
      cases hmem
    | cons item items ih =>
      intro values hfits hvalues
      rw [List.mapM_cons] at hvalues
      simp only [Option.bind_eq_bind, Option.bind_eq_some_iff, Option.pure_def,
        Option.some.injEq] at hvalues
      obtain ⟨first, hfirst, rest, hrest, rfl⟩ := hvalues
      intro value hmem
      rcases List.mem_cons.mp hmem with rfl | hmem
      · exact hview item _ (hfits item List.mem_cons_self) hfirst
      · exact ih rest (fun i hi => hfits i (List.mem_cons_of_mem _ hi)) hrest value hmem
  refine h.take (P := fun values => ∀ value ∈ values, P value) ?_ hvalues
  intro arg values hfits hsome
  cases hfits with
  | list hfits => exact hitems _ values hfits hsome
  | _ => cases hsome

theorem Fits.tensor (h : bound.Fits limit) {tensor : RealTensor}
    (htensor : bound.tensor name = .ok tensor) : ∀ size ∈ tensor.sizes, size < limit := by
  refine h.take (P := fun tensor : RealTensor => ∀ size ∈ tensor.sizes, size < limit) ?_ htensor
  intro arg value hfits hsome
  cases hfits with
  | tensor hsizes =>
    rw [← Option.some.inj hsome]
    exact hsizes
  | _ => cases hsome

theorem Fits.optTensor (h : bound.Fits limit) {tensor : RealTensor}
    (htensor : bound.optTensor name = .ok (some tensor)) : ∀ size ∈ tensor.sizes, size < limit := by
  refine h.take (P := fun given : Option RealTensor =>
    ∀ tensor ∈ given, ∀ size ∈ tensor.sizes, size < limit) ?_ htensor tensor rfl
  intro arg value hfits hsome tensor htensor
  obtain rfl : value = some tensor := htensor
  cases hfits with
  | tensor hsizes =>
    obtain rfl := Option.some.inj (Option.some.inj hsome)
    exact hsizes
  | _ => cases hsome

theorem Fits.ints (h : bound.Fits limit) {values : List Int} (hvalues : bound.ints name = .ok values) :
    ∀ value ∈ values, value < 2 ^ 63 := by
  refine h.takeList (P := fun value : Int => value < 2 ^ 63) ?_ hvalues
  intro arg value hfits hsome
  cases hfits with
  | int _ hlt =>
    rw [← Option.some.inj hsome]
    exact hlt
  | _ => cases hsome

end BoundArgs

end OpShape
