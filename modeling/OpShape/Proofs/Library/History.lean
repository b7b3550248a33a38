/-
# `OpShape.Proofs.Library.History` — what a library tells of its history.

A library keeps its functions in a list and their places in an index beside it.  The two are in step
throughout: every action keeps the invariant `ShapeLibrary.InStep`, whether it succeeds or fails,
and so does every run of actions that starts from the empty library.  Hence a library tells of the
run that built it, and of nothing else: its functions are those that the run took in, in that order
and with the edits that came after them.
-/
import OpShape.Library
import OpShape.Proofs.Keyed

namespace OpShape

/-! ## Libraries whose index is in step with their functions -/

namespace ShapeLibrary

/-- **The index is in step with the functions**: no operator has two of them, and the index tells
the place of each. -/
structure InStep (library : ShapeLibrary) : Prop where
  distinct : library.ops.Nodup
  indexed : library.places = library.ops.zipIdx

theorem inStep_empty : InStep empty where
  distinct := List.nodup_nil
  indexed := rfl

section InStep

variable {library : ShapeLibrary} {function : ShapeFunction} {op : OpName} {place : Nat}

theorem getElem?_ops : library.ops[place]? = library.functions[place]?.map ShapeFunction.op :=
  List.getElem?_map

theorem length_ops : library.ops.length = library.size :=
  List.length_map _

/-- The index finds exactly the places of the operators. -/
theorem InStep.place?_eq_some (h : library.InStep) :
    library.place? op = some place ↔ library.ops[place]? = some op := by
  have hkeys : library.places.map Prod.fst = library.ops := by
    rw [h.indexed, List.zipIdx_map_fst]
  rw [place?, find?_key_eq_some (hkeys ▸ h.distinct), h.indexed, List.mk_mem_zipIdx_iff_getElem?]

theorem InStep.isSome_place? (h : library.InStep) :
    (library.place? op).isSome ↔ op ∈ library.ops := by
  rw [Option.isSome_iff_exists, List.mem_iff_getElem?]
  simp only [h.place?_eq_some]

/-- An operator's function is found exactly if it is in the library. -/
theorem InStep.get?_eq_some (h : library.InStep) :
    library.get? op = some function ↔ function ∈ library.functions ∧ function.op = op := by
  unfold get?
  simp only [Option.bind_eq_some_iff, h.place?_eq_some, getElem?_ops, Option.map_eq_some_iff]
  constructor
  · rintro ⟨place, ⟨other, hother, hop⟩, hfunction⟩
    obtain rfl : other = function := Option.some.inj (hother.symm.trans hfunction)
    exact ⟨List.mem_of_getElem? hfunction, hop⟩
  · rintro ⟨hfunction, hop⟩
    obtain ⟨place, hplace⟩ := List.mem_iff_getElem?.mp hfunction
    exact ⟨place, ⟨function, hplace, hop⟩, hplace⟩

/-! ### Insertions -/

/-- An operator that has a function gets no second one. -/
theorem InStep.tryInsert_taken (h : library.InStep) (hop : function.op ∈ library.ops) :
    library.tryInsert function = (.error (.duplicateOperator function.op), library) :=
  if_pos (h.isSome_place?.mpr hop)

/-- The library with a function behind the others. -/
def push (library : ShapeLibrary) (function : ShapeFunction) : ShapeLibrary where
  functions := library.functions ++ [function]
  places := library.places ++ [(function.op, library.size)]

@[simp] theorem ops_push : (library.push function).ops = library.ops ++ [function.op] :=
  List.map_append

/-- A function of a new operator goes behind the others. -/
theorem InStep.tryInsert_new (h : library.InStep) (hop : function.op ∉ library.ops) :
    library.tryInsert function = (.ok library.size, library.push function) :=
  if_neg fun hsome => hop (h.isSome_place?.mp hsome)

theorem InStep.push (h : library.InStep) (hop : function.op ∉ library.ops) :
    (library.push function).InStep := by
  constructor
  · rw [ops_push, List.nodup_append]
    refine ⟨h.distinct, List.nodup_singleton _, ?_⟩
    intro a ha b hb hab
    obtain rfl := List.mem_singleton.mp hb
    exact hop (hab ▸ ha)
  · rw [ops_push, List.zipIdx_append, ← h.indexed, length_ops, Nat.zero_add]
    rfl

theorem InStep.place?_push (h : library.InStep) (hop : function.op ∉ library.ops) :
    (library.push function).place? function.op = some library.size := by
  rw [(h.push hop).place?_eq_some, ops_push, ← length_ops]
  exact List.getElem?_concat_length

/-! ### Edits -/

variable {change : ShapeFunction → ShapeFunction}

/-- An edit that leaves operators alone leaves the index right. -/
theorem ops_editAt (hchange : ∀ function, (change function).op = function.op) :
    (library.editAt place change).ops = library.ops := by
  refine List.ext_getElem? fun i => ?_
  rw [getElem?_ops, getElem?_ops]
  show ((library.functions.modify place change)[i]?).map _ = _
  rw [List.getElem?_modify, Option.map_eq_map, Option.map_map]
  congr 1
  funext function
  show (if place = i then change function else function).op = _
  split
  · exact hchange function
  · rfl

/-- **An edit changes the function of its operator**, and no other one. -/
theorem InStep.functions_edit (h : library.InStep) :
    (library.edit op change).functions =
      library.functions.map fun function => if function.op = op then change function else function := by
  -- The place that the index tells is the only one where the operator stands.
  unfold edit
  cases hplace : library.place? op with
  | none =>
    have habsent : op ∉ library.ops := by
      rw [← h.isSome_place?, hplace]
      exact Bool.false_ne_true
    show library.functions = _
    refine (List.map_id' library.functions).symm.trans (List.map_congr_left fun function hmem => ?_)
    have hne : function.op ≠ op := fun hop => habsent (hop ▸ List.mem_map_of_mem hmem)
    exact (if_neg hne).symm
  | some place =>
    refine List.ext_getElem? fun i => ?_
    show (library.functions.modify place change)[i]? = _
    rw [List.getElem?_modify, List.getElem?_map]
    cases hi : library.functions[i]? with
    | none => rfl
    | some function =>
      have hiff : place = i ↔ function.op = op := by
        have hat : library.place? op = some i ↔ function.op = op := by
          rw [h.place?_eq_some, getElem?_ops, hi]
          exact Option.some_inj
        rw [← hat, hplace]
        exact Option.some_inj.symm
      show some _ = some _
      simp only [hiff]

theorem InStep.edit (h : library.InStep)
    (hchange : ∀ function, (change function).op = function.op) : (library.edit op change).InStep := by
  unfold ShapeLibrary.edit
  cases library.place? op with
  | none => exact h
  | some place =>
    have hops : (library.editAt place change).ops = library.ops := ops_editAt hchange
    exact ⟨hops ▸ h.distinct, hops ▸ h.indexed⟩

end InStep

end ShapeLibrary

/-! ## Actions -/

/-- What can be done to a library.  An edit goes through the place of a function that the library
has taken in; where there is none, nothing is there to be edited. -/
inductive LibraryAction where
  | insert (function : ShapeFunction)
  | register (name : String) (signature : Signature)
      (compute : Nat → BoundArgs Sizes → ShapeResult (Returned Shape))
  | addInvocations (op : OpName) (invocations : List Invocation)
  | markExempt (op : OpName)

namespace LibraryAction

/-- How an action ends, with the place of a function that it takes in, and the library that it
leaves. -/
def perform (library : ShapeLibrary) :
    LibraryAction → Except LibraryError (Option Nat) × ShapeLibrary
  | insert function => ((library.tryInsert function).1.map some, (library.tryInsert function).2)
  | register name signature compute =>
    ((library.tryRegister name signature compute).1.map some,
      (library.tryRegister name signature compute).2)
  | addInvocations op invocations =>
    (.ok none, library.edit op fun function => function.addInvocations invocations)
  | markExempt op => (.ok none, library.edit op ShapeFunction.markExempt)

/-- The function that an action would have the library take in. -/
def offer? : LibraryAction → Option ShapeFunction
  | insert function => some function
  | register name signature compute =>
    (OpName.ofText? name).map fun op => ShapeLibrary.newFunction op signature compute
  | _ => none

/-- The function that the library takes in with an action. -/
def taken? (library : ShapeLibrary) (action : LibraryAction) : Option ShapeFunction :=
  match (action.perform library).1 with
  | .ok _ => action.offer?
  | .error _ => none

/-- The invocations that an action adds to the function of an operator. -/
def attached (op : OpName) : LibraryAction → List Invocation
  | addInvocations other invocations => if op = other then invocations else []
  | _ => []

/-- Does an action mark the function of an operator? -/
def marks (op : OpName) : LibraryAction → Bool
  | markExempt other => op = other
  | _ => false

/-- Why an action fails with a library whose functions have the given operators. -/
inductive Fails (ops : List OpName) : LibraryAction → LibraryError → Prop
  | invalidName {name : String} {signature : Signature}
      {compute : Nat → BoundArgs Sizes → ShapeResult (Returned Shape)} :
      OpName.ofText? name = none →
      Fails ops (.register name signature compute) (.invalidName name)
  | duplicate {action : LibraryAction} {function : ShapeFunction} :
      action.offer? = some function → function.op ∈ ops →
      Fails ops action (.duplicateOperator function.op)

end LibraryAction

/-- The function as actions that come after it leave it: with the invocations that they add, in
order, and marked if one of them marks it. -/
def ShapeFunction.edited (actions : List LibraryAction) (function : ShapeFunction) :
    ShapeFunction :=
  { function with
    invocations := function.invocations ++ actions.flatMap (LibraryAction.attached function.op),
    isExempt := function.isExempt || actions.any (LibraryAction.marks function.op) }

namespace ShapeLibrary

/-- The library that a run of actions leaves. -/
def run (library : ShapeLibrary) (actions : List LibraryAction) : ShapeLibrary :=
  actions.foldl (fun library action => (action.perform library).2) library

/-- The functions that a run takes in, one after the other, each as the rest of the run leaves
it. -/
def takenIn (library : ShapeLibrary) : List LibraryAction → List ShapeFunction
  | [] => []
  | action :: actions =>
    ((action.taken? library).map (ShapeFunction.edited actions)).toList ++
      takenIn (action.perform library).2 actions

@[simp] theorem takenIn_nil {library : ShapeLibrary} : library.takenIn [] = [] := rfl

theorem takenIn_cons {library : ShapeLibrary} {action : LibraryAction}
    {actions : List LibraryAction} :
    library.takenIn (action :: actions) =
      ((action.taken? library).map (ShapeFunction.edited actions)).toList ++
        (action.perform library).2.takenIn actions := rfl

/-! ## What an action does -/

section Step

variable {library : ShapeLibrary} {function : ShapeFunction}

@[simp] theorem run_nil : library.run [] = library := rfl

@[simp] theorem run_cons {action : LibraryAction} {actions : List LibraryAction} :
    library.run (action :: actions) = (action.perform library).2.run actions := rfl

theorem run_append {before after : List LibraryAction} :
    library.run (before ++ after) = (library.run before).run after :=
  List.foldl_append

/-- **What a step does**: it keeps the index in step, and its functions are those that were there,
as the action leaves them, and the one that it takes in. -/
structure StepsTo (library : ShapeLibrary) (action : LibraryAction) : Prop where
  inStep : (action.perform library).2.InStep
  functions : (action.perform library).2.functions =
    library.functions.map (ShapeFunction.edited [action]) ++ (action.taken? library).toList
  fails : ∀ error, (action.perform library).1 = .error error ↔ action.Fails library.ops error
  kept : ∀ error, (action.perform library).1 = .error error → (action.perform library).2 = library
  placed : ∀ place, (action.perform library).1 = .ok (some place) →
    ∃ function, action.taken? library = some function ∧
      (action.perform library).2.place? function.op = some place

/-- Actions that neither add invocations nor mark leave a function as it is. -/
theorem edited_eq_self {action : LibraryAction} (hattached : action.attached function.op = [])
    (hmarks : action.marks function.op = false) : function.edited [action] = function := by
  unfold ShapeFunction.edited
  simp [hattached, hmarks]

/-- An action that offers a function inserts it, and does nothing else. -/
theorem perform_of_offer {action : LibraryAction} (hoffer : action.offer? = some function) :
    action.perform library =
      ((library.tryInsert function).1.map some, (library.tryInsert function).2) := by
  cases action with
  | insert other =>
    obtain rfl := Option.some.inj hoffer
    rfl
  | register name signature compute =>
    obtain ⟨op, hop, rfl⟩ := Option.map_eq_some_iff.mp hoffer
    simp only [LibraryAction.perform, tryRegister, hop]
  | addInvocations op invocations => cases hoffer
  | markExempt op => cases hoffer

theorem edited_of_offer {action : LibraryAction} (hoffer : action.offer? = some function)
    (functions : List ShapeFunction) :
    functions.map (ShapeFunction.edited [action]) = functions := by
  refine List.map_id'' (fun other => ?_) functions
  cases action with
  | insert _ => exact edited_eq_self rfl rfl
  | register _ _ _ => exact edited_eq_self rfl rfl
  | addInvocations _ _ => cases hoffer
  | markExempt _ => cases hoffer

/-- An action that offers a function fails exactly if the operator has one already. -/
theorem fails_of_offer {ops : List OpName} {action : LibraryAction} {error : LibraryError}
    (hoffer : action.offer? = some function) :
    action.Fails ops error ↔ function.op ∈ ops ∧ error = .duplicateOperator function.op := by
  constructor
  · rintro (hname | ⟨hother, hop⟩)
    · simp [LibraryAction.offer?, hname] at hoffer
    · obtain rfl := Option.some.inj (hother.symm.trans hoffer)
      exact ⟨hop, rfl⟩
  · rintro ⟨hop, rfl⟩
    exact .duplicate hoffer hop

/-- A function of an operator that has one is not taken in. -/
theorem InStep.stepsTo_taken (h : library.InStep) {action : LibraryAction}
    (hoffer : action.offer? = some function) (hop : function.op ∈ library.ops) :
    library.StepsTo action := by
  have hperform : action.perform library =
      (.error (.duplicateOperator function.op), library) := by
    rw [perform_of_offer hoffer, h.tryInsert_taken hop]
    rfl
  have htaken : action.taken? library = none := by
    unfold LibraryAction.taken?
    rw [hperform]
  constructor
  · rw [hperform]
    exact h
  · rw [hperform, htaken, edited_of_offer hoffer]
    exact (List.append_nil _).symm
  · intro error
    rw [hperform, fails_of_offer hoffer]
    simp [hop, eq_comm]
  · intro error _
    rw [hperform]
  · intro place hplace
    rw [hperform] at hplace
    cases hplace

/-- A function of a new operator is taken in. -/
theorem InStep.stepsTo_new (h : library.InStep) {action : LibraryAction}
    (hoffer : action.offer? = some function) (hop : function.op ∉ library.ops) :
    library.StepsTo action := by
  have hperform := @perform_of_offer library _ _ hoffer
  rw [h.tryInsert_new hop] at hperform
  have htaken : action.taken? library = some function := by
    unfold LibraryAction.taken?
    rw [hperform]
    exact hoffer
  constructor
  · rw [hperform]
    exact h.push hop
  · rw [hperform, htaken, edited_of_offer hoffer]
    rfl
  · intro error
    rw [hperform, fails_of_offer hoffer]
    constructor
    · rintro ⟨⟩
    · intro herror
      exact absurd herror.1 hop
  · intro error herror
    rw [hperform] at herror
    cases herror
  · intro place hplace
    rw [hperform] at hplace ⊢
    obtain rfl : library.size = place := Option.some.inj (Except.ok.inj hplace)
    exact ⟨function, htaken, h.place?_push hop⟩

/-- A function is taken in exactly if its operator is new. -/
theorem InStep.stepsTo_offer (h : library.InStep) {action : LibraryAction}
    (hoffer : action.offer? = some function) : library.StepsTo action := by
  by_cases hop : function.op ∈ library.ops
  · exact h.stepsTo_taken hoffer hop
  · exact h.stepsTo_new hoffer hop

/-- A text that names no operator registers nothing. -/
theorem InStep.stepsTo_invalidName (h : library.InStep) {name : String} {signature : Signature}
    {compute : Nat → BoundArgs Sizes → ShapeResult (Returned Shape)}
    (hname : OpName.ofText? name = none) :
    library.StepsTo (.register name signature compute) := by
  have hperform : (LibraryAction.register name signature compute).perform library =
      (.error (.invalidName name), library) := by
    simp only [LibraryAction.perform, tryRegister, hname]
    rfl
  have htaken : (LibraryAction.register name signature compute).taken? library = none := by
    unfold LibraryAction.taken?
    rw [hperform]
  constructor
  · rw [hperform]
    exact h
  · rw [hperform, htaken, Option.toList_none, List.append_nil]
    exact (List.map_id'' (fun _ => edited_eq_self rfl rfl) _).symm
  · intro error
    rw [hperform]
    constructor
    · rintro ⟨⟩
      exact .invalidName hname
    · rintro (_ | ⟨hoffer, -⟩)
      · rfl
      · simp [LibraryAction.offer?, hname] at hoffer
  · intro error _
    rw [hperform]
  · intro place hplace
    rw [hperform] at hplace
    cases hplace

/-- An edit reaches the function of its operator, and always succeeds. -/
theorem InStep.stepsTo_edit (h : library.InStep) {action : LibraryAction} {op : OpName}
    {change : ShapeFunction → ShapeFunction}
    (hperform : action.perform library = (.ok none, library.edit op change))
    (hoffer : action.offer? = none) (hnever : ∀ error, ¬ action.Fails library.ops error)
    (hop : ∀ function, (change function).op = function.op)
    (hchange : ∀ function : ShapeFunction, function.edited [action] =
      if function.op = op then change function else function) : library.StepsTo action := by
  have htaken : action.taken? library = none := by
    unfold LibraryAction.taken?
    rw [hperform]
    exact hoffer
  constructor
  · rw [hperform]
    exact h.edit hop
  · rw [hperform, htaken, Option.toList_none, List.append_nil, h.functions_edit]
    exact List.map_congr_left fun function _ => (hchange function).symm
  · intro error
    rw [hperform]
    constructor
    · rintro ⟨⟩
    · intro herror
      exact absurd herror (hnever error)
  · intro error herror
    rw [hperform] at herror
    cases herror
  · intro place hplace
    rw [hperform] at hplace
    cases hplace

/-- **Every action is a step**, whatever it is. -/
theorem InStep.stepsTo (h : library.InStep) (action : LibraryAction) : library.StepsTo action := by
  cases action with
  | insert function => exact h.stepsTo_offer rfl
  | register name signature compute =>
    cases hname : OpName.ofText? name with
    | none => exact h.stepsTo_invalidName hname
    | some op =>
      have hoffer : (LibraryAction.register name signature compute).offer? =
          some (newFunction op signature compute) := by
        show (OpName.ofText? name).map _ = _
        rw [hname]
        rfl
      exact h.stepsTo_offer hoffer
  | addInvocations op invocations =>
    refine h.stepsTo_edit rfl rfl ?_ (fun _ => rfl) fun function => ?_
    · rintro error (_ | ⟨hoffer, -⟩)
      cases hoffer
    · by_cases hop : function.op = op
      · rw [if_pos hop]
        simp [ShapeFunction.edited, ShapeFunction.addInvocations, LibraryAction.attached,
          LibraryAction.marks, hop]
      · rw [if_neg hop]
        exact edited_eq_self (if_neg hop) rfl
  | markExempt op =>
    refine h.stepsTo_edit rfl rfl ?_ (fun _ => rfl) fun function => ?_
    · rintro error (_ | ⟨hoffer, -⟩)
      cases hoffer
    · by_cases hop : function.op = op
      · rw [if_pos hop]
        simp [ShapeFunction.edited, ShapeFunction.markExempt, LibraryAction.attached,
          LibraryAction.marks, hop]
      · rw [if_neg hop]
        exact edited_eq_self rfl (decide_eq_false hop)

end Step

/-! ## What a run does -/

/-- Edits are made one after the other. -/
theorem edited_cons (action : LibraryAction) (actions : List LibraryAction)
    (function : ShapeFunction) :
    function.edited (action :: actions) = (function.edited [action]).edited actions := by
  unfold ShapeFunction.edited
  simp [List.append_assoc, Bool.or_assoc]

@[simp] theorem edited_nil (function : ShapeFunction) : function.edited [] = function := by
  unfold ShapeFunction.edited
  simp

variable {library : ShapeLibrary}

/-- **A run keeps the index in step.** -/
theorem InStep.run (h : library.InStep) (actions : List LibraryAction) :
    (library.run actions).InStep := by
  induction actions generalizing library with
  | nil => exact h
  | cons action actions ih => exact ih (h.stepsTo action).inStep

/-- **A run leaves the functions that were there and those that it takes in**, in this order, each
with the edits that come after it. -/
theorem InStep.functions_run (h : library.InStep) (actions : List LibraryAction) :
    (library.run actions).functions =
      library.functions.map (ShapeFunction.edited actions) ++ library.takenIn actions := by
  induction actions generalizing library with
  | nil =>
    show library.functions = _ ++ []
    rw [List.append_nil]
    exact (List.map_id'' edited_nil _).symm
  | cons action actions ih =>
    have hstep := h.stepsTo action
    have hmap : (action.taken? library).toList.map (ShapeFunction.edited actions) =
        ((action.taken? library).map (ShapeFunction.edited actions)).toList := by
      cases action.taken? library <;> rfl
    rw [run_cons, ih hstep.inStep, hstep.functions, List.map_append, List.map_map, hmap,
      List.append_assoc, takenIn_cons]
    congr 1
    exact List.map_congr_left fun function _ => (edited_cons action actions function).symm

/-- A function that a run takes in comes from one of its actions, and has the edits of those behind
it. -/
theorem mem_takenIn {actions : List LibraryAction} {function : ShapeFunction} :
    function ∈ library.takenIn actions ↔
      ∃ before action after taken, actions = before ++ action :: after ∧
        action.taken? (library.run before) = some taken ∧ function = taken.edited after := by
  induction actions generalizing library with
  | nil => simp
  | cons action actions ih =>
    rw [takenIn_cons, List.mem_append, ih, Option.mem_toList, Option.map_eq_some_iff]
    constructor
    · rintro (⟨taken, htaken, rfl⟩ | ⟨before, other, after, taken, rfl, htaken, rfl⟩)
      · exact ⟨[], action, actions, taken, rfl, htaken, rfl⟩
      · exact ⟨action :: before, other, after, taken, rfl, htaken, rfl⟩
    · rintro ⟨before, other, after, taken, hactions, htaken, rfl⟩
      cases before with
      | nil =>
        obtain ⟨rfl, rfl⟩ := List.cons.inj hactions
        exact .inl ⟨taken, htaken, rfl⟩
      | cons first before =>
        obtain ⟨rfl, rfl⟩ := List.cons.inj hactions
        exact .inr ⟨before, other, after, taken, rfl, htaken, rfl⟩

/-- **A place stays the place of its operator**, whatever is done to the library. -/
theorem InStep.place?_run (h : library.InStep) {op : OpName} {place : Nat}
    (hplace : library.place? op = some place) (actions : List LibraryAction) :
    (library.run actions).place? op = some place := by
  have hops : (library.run actions).ops =
      library.ops ++ (library.takenIn actions).map ShapeFunction.op := by
    show (library.run actions).functions.map _ = _
    rw [h.functions_run, List.map_append, List.map_map]
    rfl
  have hat : library.ops[place]? = some op := h.place?_eq_some.mp hplace
  rw [(h.run actions).place?_eq_some, hops]
  rw [List.getElem?_append_left (List.getElem?_eq_some_iff.mp hat).1]
  exact hat

/-- **`Tells actions library`** — the library tells of the run of these actions from the empty
library. -/
structure Tells (actions : List LibraryAction) (library : ShapeLibrary) : Prop where
  /-- No two functions are of one operator. -/
  distinct : library.ops.Nodup
  /-- The functions stand in the order in which they were taken in. -/
  inOrder : library.functions = empty.takenIn actions
  counted : library.size = (empty.takenIn actions).length
  /-- A function is found exactly if an action took in a function of the operator, and it is that
  function with all edits behind that action. -/
  found : ∀ op function, library.get? op = some function ↔
    ∃ before action after taken, actions = before ++ action :: after ∧
      action.taken? (empty.run before) = some taken ∧ taken.op = op ∧
      function = taken.edited after
  /-- An action fails exactly if its text names no operator or its operator has a function. -/
  fails : ∀ action error, (LibraryAction.perform library action).1 = .error error ↔
    action.Fails ((empty.takenIn actions).map ShapeFunction.op) error
  /-- An action that fails leaves the library as it was. -/
  kept : ∀ action error, (LibraryAction.perform library action).1 = .error error →
    empty.run (actions ++ [action]) = library
  /-- An action that takes in a function answers with its place, and from then on an edit of the
  operator is an edit at that place. -/
  placed : ∀ action place, (LibraryAction.perform library action).1 = .ok (some place) →
    ∃ taken, action.taken? library = some taken ∧ ∀ later change,
      ((empty.run (actions ++ action :: later)).edit taken.op change) =
        (empty.run (actions ++ action :: later)).editAt place change

/-- **A library that a run builds from nothing tells of that run**, whichever of its actions fail.
-/
theorem run_tells (actions : List LibraryAction) : (empty.run actions).Tells actions := by
  have hinStep : (empty.run actions).InStep := inStep_empty.run actions
  have hfunctions : (empty.run actions).functions = empty.takenIn actions :=
    inStep_empty.functions_run actions
  constructor
  · exact hinStep.distinct
  · exact hfunctions
  · exact congrArg List.length hfunctions
  · intro op function
    rw [hinStep.get?_eq_some, hfunctions, mem_takenIn]
    constructor
    · rintro ⟨⟨before, action, after, taken, hactions, htaken, rfl⟩, hop⟩
      exact ⟨before, action, after, taken, hactions, htaken, hop, rfl⟩
    · rintro ⟨before, action, after, taken, hactions, htaken, hop, rfl⟩
      exact ⟨⟨before, action, after, taken, hactions, htaken, rfl⟩, hop⟩
  · intro action error
    rw [(hinStep.stepsTo action).fails]
    show action.Fails ((empty.run actions).functions.map _) error ↔ _
    rw [hfunctions]
  · intro action error herror
    rw [run_append]
    exact (hinStep.stepsTo action).kept error herror
  · intro action place hplace
    have hstep := hinStep.stepsTo action
    obtain ⟨taken, htaken, hat⟩ := hstep.placed place hplace
    refine ⟨taken, htaken, fun later change => ?_⟩
    have hlater := hstep.inStep.place?_run hat later
    rw [run_append, run_cons]
    unfold edit
    rw [hlater]

end ShapeLibrary

end OpShape
