/-
# `OpShape.Proofs.Run.Order` — a manifest does not depend on the order of registration.

Two libraries with the same functions in another order are tried in another order, and with other
tokens.  Neither shows in a manifest: whether there is one is a question about each function by
itself, an entry is determined by its function and the oracle, and no two entries are of operators
with the same text, so that there is only one way to sort them.
-/
import Mathlib.Data.List.Perm.Basic
import OpShape.Builtin.Library
import OpShape.Proofs.Library.History
import OpShape.Proofs.OpName
import OpShape.Proofs.Run.Generate

namespace OpShape

/-! ## Libraries built by names -/

/-- The action names the operator of a function by a text, if it offers one. -/
def LibraryAction.ByName : LibraryAction → Prop
  | insert _ => False
  | _ => True

namespace ShapeLibrary

/-- The library was built from nothing by registering functions and editing them. -/
def BuiltByName (library : ShapeLibrary) : Prop :=
  ∃ actions : List LibraryAction, (∀ action ∈ actions, action.ByName) ∧
    empty.run actions = library

variable {library : ShapeLibrary}

theorem BuiltByName.inStep (h : library.BuiltByName) : library.InStep := by
  obtain ⟨actions, -, rfl⟩ := h
  exact inStep_empty.run actions

/-- A function that is offered by a name is of an operator that can be named. -/
theorem named_of_offer {action : LibraryAction} {function : ShapeFunction}
    (hname : action.ByName) (hoffer : action.offer? = some function) : function.op.Named := by
  cases action with
  | insert _ => exact hname.elim
  | register name signature compute =>
    obtain ⟨op, hop, rfl⟩ := Option.map_eq_some_iff.mp hoffer
    exact ⟨name, hop⟩
  | addInvocations _ _ => cases hoffer
  | markExempt _ => cases hoffer

/-- What is taken in was offered. -/
theorem offer?_of_taken? {action : LibraryAction} {function : ShapeFunction}
    (h : action.taken? library = some function) : action.offer? = some function := by
  unfold LibraryAction.taken? at h
  split at h
  · exact h
  · cases h

theorem BuiltByName.named (h : library.BuiltByName) :
    ∀ function ∈ library.functions, function.op.Named := by
  obtain ⟨actions, hnames, rfl⟩ := h
  intro function hfunction
  rw [inStep_empty.functions_run] at hfunction
  obtain ⟨before, action, after, taken, hactions, htaken, rfl⟩ := mem_takenIn.mp hfunction
  have haction : action ∈ actions := by
    rw [hactions]
    exact List.mem_append_right _ List.mem_cons_self
  show taken.op.Named
  exact named_of_offer (hnames action haction) (offer?_of_taken? htaken)

/-- **No two functions of a library that was built by names have operators of the same text.** -/
theorem BuiltByName.nodup_texts (h : library.BuiltByName) :
    (library.functions.map fun function => function.op.text).Nodup := by
  have hops := h.inStep.distinct
  have hnamed : ∀ op ∈ library.ops, op.Named := by
    intro op hop
    obtain ⟨function, hfunction, rfl⟩ := List.mem_map.mp hop
    exact h.named function hfunction
  have htexts : (library.ops.map OpName.text).Nodup :=
    hops.map_on fun a ha b hb heq => (hnamed a ha).eq_of_text_eq (hnamed b hb) heq
  rwa [ops, List.map_map] at htexts

end ShapeLibrary

/-! ## Tokens -/

/-- The sizes of outputs, where any size that is left open is like any other. -/
def openSizes (returned : Returned Shape) : List (List (Option Nat)) :=
  returned.toList.map fun shape => shape.dims.map Dim.size?

/-- **The function uses its token for nothing but to mark sizes that it leaves open.** -/
def ShapeFunction.IgnoresTokens (function : ShapeFunction) : Prop :=
  ∀ token token' args, Alike (fun shapes shapes' => openSizes shapes = openSizes shapes')
    (function.call token args) (function.call token' args)

/-- A computation ends like itself. -/
theorem alike_refl {ε α : Type} {R : α → α → Prop} (hR : ∀ a, R a a) (x : Except ε α) :
    Alike R x x := by
  cases x with
  | error _ => trivial
  | ok a => exact hR a

/-- A function ignores tokens if the computation behind its arguments does. -/
theorem ShapeFunction.ignoresTokens_of_compute {function : ShapeFunction}
    (h : ∀ token token' args, Alike (fun shapes shapes' => openSizes shapes = openSizes shapes')
      (function.compute token args) (function.compute token' args)) : function.IgnoresTokens := by
  intro token token' args
  refine (alike_refl (R := Eq) (fun _ => rfl) (liftM (function.signature.bind args))).bind ?_
  rintro bound _ rfl
  exact h token token' bound

namespace Builtin

theorem ignoresTokens_one {function : ShapeFunction} {sizes : ShapeArgs → ShapeResult Sizes}
    (h : function.compute = one sizes) : function.IgnoresTokens :=
  ShapeFunction.ignoresTokens_of_compute fun _ _ _ => by
    rw [h]
    refine alike_refl ?_ _
    exact fun _ => rfl

/-- The one function that leaves a size open marks it with the token, and that is all. -/
theorem ignoresTokens_binCount {function : ShapeFunction} (h : function.compute = binCount) :
    function.IgnoresTokens :=
  ShapeFunction.ignoresTokens_of_compute fun token token' args => by
    rw [h]
    unfold binCount
    refine (alike_refl (R := Eq) (fun _ => rfl) _).bind ?_
    rintro input _ rfl
    split
    · trivial
    · refine (alike_refl (R := Eq) (fun _ => rfl) _).bind ?_
      rintro length _ rfl
      split
      · trivial
      · refine (alike_refl (R := Eq) (fun _ => rfl) _).bind ?_
        rintro weights _ rfl
        split
        · trivial
        · rfl

end Builtin

/-- Whether shapes fit is seen from the sizes that they do not leave open. -/
theorem forall₂_fits_iff_openSizes {shapes : Returned Shape} {sizes : List Sizes} :
    List.Forall₂ Shape.Fits shapes.toList sizes ↔
      openSizes shapes = sizes.map fun dims => dims.map some := by
  have hfits : ∀ shape dims, Shape.Fits shape dims ↔ shape.dims.map Dim.size? = dims.map some := by
    intro shape dims
    unfold Shape.Fits
    rw [map_eq_map_iff_forall₂]
    refine ⟨fun h => h.imp fun dim size hdim => ?_, fun h => h.imp fun dim size hdim => ?_⟩
    · rw [hdim]
      rfl
    · cases dim with
      | fixed found => exact congrArg Dim.fixed (Option.some.inj hdim)
      | unknown _ => cases hdim
  unfold openSizes
  rw [map_eq_map_iff_forall₂]
  constructor
  · exact fun h => h.imp fun shape dims => (hfits shape dims).mp
  · exact fun h => h.imp fun shape dims => (hfits shape dims).mpr

/-- The sides agree just the same if the shapes have other tokens. -/
theorem Agreement.of_openSizes {expectError : Bool} {shapes shapes' : ShapeResult (Returned Shape)}
    {tensors : OpResult (Returned RealTensor)} {outputs : Option (List Sizes)}
    (h : Agreement expectError shapes tensors outputs)
    (hshapes : Alike (fun a b => openSizes a = openSizes b) shapes shapes') :
    Agreement expectError shapes' tensors outputs := by
  cases h with
  | failure hexpect =>
    obtain ⟨failure, rfl⟩ := hshapes.error
    exact .failure hexpect
  | outputs hexpect hfits =>
    obtain ⟨found, rfl, hsizes⟩ := hshapes.ok
    refine .outputs hexpect ?_
    rw [forall₂_fits_iff_openSizes] at hfits ⊢
    rw [← hsizes, hfits]

/-- What is recorded of an agreement comes from the operator. -/
theorem Agreement.unique {expectError : Bool} {shapes shapes' : ShapeResult (Returned Shape)}
    {tensors : OpResult (Returned RealTensor)} {outputs outputs' : Option (List Sizes)}
    (h : Agreement expectError shapes tensors outputs)
    (h' : Agreement expectError shapes' tensors outputs') : outputs = outputs' := by
  cases h with
  | failure _ =>
    cases h'
    rfl
  | outputs _ _ =>
    cases h'
    rfl

namespace Trial

variable {oracle : Oracle} {function : ShapeFunction} {invocation : Invocation}

/-- A trial passes whatever the token of its call is. -/
theorem PassesWith.of_token {token : Nat} {outputs : Option (List Sizes)}
    (hfunction : function.IgnoresTokens)
    (h : Trial.PassesWith oracle { function, invocation, token } outputs) (token' : Nat) :
    Trial.PassesWith oracle { function, invocation, token := token' } outputs := by
  obtain ⟨hkeywords, shapes, tensors, ⟨shapeArgs, realArgs, hshape, hreal, rfl, rfl⟩, hagree⟩ := h
  refine ⟨hkeywords, _, _, ⟨shapeArgs, realArgs, hshape, hreal, rfl, rfl⟩, ?_⟩
  exact hagree.of_openSizes (hfunction token token' shapeArgs)

/-- **What is recorded of an invocation does not depend on the token.** -/
theorem PassesWith.unique {token token' : Nat} {outputs outputs' : Option (List Sizes)}
    (h : Trial.PassesWith oracle { function, invocation, token } outputs)
    (h' : Trial.PassesWith oracle { function, invocation, token := token' } outputs') :
    outputs = outputs' := by
  obtain ⟨-, shapes, tensors, ⟨shapeArgs, realArgs, -, hreal, -, rfl⟩, hagree⟩ := h
  obtain ⟨-, shapes', tensors', ⟨shapeArgs', realArgs', -, hreal', -, rfl⟩, hagree'⟩ := h'
  obtain rfl : realArgs = realArgs' := Except.ok.inj (hreal.symm.trans hreal')
  exact hagree.unique hagree'

end Trial

/-! ## Each function by itself -/

/-- The invocation of a function passes, with whatever token. -/
def ShapeFunction.PassesOn (oracle : Oracle) (function : ShapeFunction) (invocation : Invocation) :
    Prop :=
  ∃ token, Trial.Passes oracle { function, invocation, token }

theorem ShapeFunction.eq_of_mem_trials {function : ShapeFunction} {token : Nat} {trial : Trial}
    (h : trial ∈ function.trials token) :
    ∃ token', trial = { function, invocation := trial.invocation, token := token' } := by
  obtain ⟨⟨invocation, token'⟩, -, rfl⟩ := List.mem_map.mp h
  exact ⟨token', rfl⟩

/-- The trials of a function pass exactly if its invocations do. -/
theorem ShapeFunction.trials_pass_iff {oracle : Oracle} {function : ShapeFunction}
    (hfunction : function.IgnoresTokens) (token : Nat) :
    (∀ trial ∈ function.trials token, trial.Passes oracle) ↔
      ∀ invocation ∈ function.invocations, function.PassesOn oracle invocation := by
  rw [← function.trials_invocations token, List.forall_mem_map]
  refine forall₂_congr fun trial htrial => ?_
  obtain ⟨token', htoken⟩ := ShapeFunction.eq_of_mem_trials htrial
  constructor
  · intro h
    rw [htoken] at h
    exact ⟨token', h⟩
  · rintro ⟨other, outputs, h⟩
    rw [htoken]
    exact ⟨outputs, h.of_token hfunction token'⟩

theorem mem_trialsFrom {token : Nat} {functions : List ShapeFunction}
    {run : ShapeFunction × List Trial} (h : run ∈ trialsFrom token functions) :
    ∃ token', run.2 = run.1.trials token' := by
  induction functions generalizing token with
  | nil => cases h
  | cons function functions ih =>
    unfold trialsFrom at h
    rcases List.mem_cons.mp h with rfl | h
    · exact ⟨token, rfl⟩
    · exact ih h

/-- **A library passes exactly if every function does by itself.** -/
theorem ShapeLibrary.passes_iff {oracle : Oracle} {library : ShapeLibrary}
    (htokens : ∀ function ∈ library.functions, function.IgnoresTokens) :
    library.Passes oracle ↔ ∀ function ∈ library.functions,
      ∀ invocation ∈ function.invocations, function.PassesOn oracle invocation := by
  have hfunctions : library.trials.map Prod.fst = library.functions :=
    trialsFrom_functions 0 library.functions
  rw [← hfunctions, List.forall_mem_map] at htokens ⊢
  refine forall₂_congr fun run hrun => ?_
  obtain ⟨token, htrials⟩ := mem_trialsFrom hrun
  rw [htrials]
  exact ShapeFunction.trials_pass_iff (htokens run hrun) token

/-- The entry is that of a function, whatever tokens its calls had. -/
def FunctionEntry.Describes (oracle : Oracle) (function : ShapeFunction) (entry : FunctionEntry) :
    Prop :=
  ∃ token, FunctionEntry.Records oracle (function, function.trials token) entry

theorem FunctionEntry.describes_of_records {oracle : Oracle} {token : Nat}
    {functions : List ShapeFunction} {entries : List FunctionEntry}
    (h : List.Forall₂ (FunctionEntry.Records oracle) (trialsFrom token functions) entries) :
    List.Forall₂ (FunctionEntry.Describes oracle) functions entries := by
  induction functions generalizing token entries with
  | nil =>
    cases h
    exact .nil
  | cons function functions ih =>
    cases h with
    | cons hentry hentries => exact .cons ⟨token, hentry⟩ (ih hentries)

/-- The invocations of an entry are determined by those of the function. -/
theorem InvocationEntry.records_unique {oracle : Oracle} {function : ShapeFunction}
    {invocation : Invocation} {token token' : Nat} {entry entry' : InvocationEntry}
    (h : InvocationEntry.Records oracle { function, invocation, token } entry)
    (h' : InvocationEntry.Records oracle { function, invocation, token := token' } entry') :
    entry = entry' := by
  obtain ⟨outputs, hpasses, rfl⟩ := h
  obtain ⟨outputs', hpasses', rfl⟩ := h'
  rw [hpasses.unique hpasses']

theorem InvocationEntry.forall₂_records_unique {oracle : Oracle} {function : ShapeFunction}
    {invocations : List Invocation} {token token' : Nat} {entries entries' : List InvocationEntry}
    (h : List.Forall₂ (InvocationEntry.Records oracle)
      ((invocations.zipIdx token).map fun entry =>
        { function, invocation := entry.1, token := entry.2 }) entries)
    (h' : List.Forall₂ (InvocationEntry.Records oracle)
      ((invocations.zipIdx token').map fun entry =>
        { function, invocation := entry.1, token := entry.2 }) entries') :
    entries = entries' := by
  induction invocations generalizing token token' entries entries' with
  | nil =>
    cases h
    cases h'
    rfl
  | cons invocation invocations ih =>
    cases h with
    | cons hentry hentries =>
      cases h' with
      | cons hentry' hentries' =>
        rw [InvocationEntry.records_unique hentry hentry', ih hentries hentries']

/-- **An entry is determined by its function and the oracle.** -/
theorem FunctionEntry.describes_unique (oracle : Oracle) :
    Relator.RightUnique (FunctionEntry.Describes oracle) := by
  rintro function ⟨op, signature, isExempt, invocations⟩ ⟨op', signature', isExempt', invocations'⟩
    ⟨token, hop, hsignature, hexempt, hinvocations⟩
    ⟨token', hop', hsignature', hexempt', hinvocations'⟩
  obtain rfl : op = op' := hop.trans hop'.symm
  obtain rfl : signature = signature' := hsignature.trans hsignature'.symm
  obtain rfl : isExempt = isExempt' := hexempt.trans hexempt'.symm
  obtain rfl : invocations = invocations' :=
    InvocationEntry.forall₂_records_unique hinvocations hinvocations'
  rfl

/-! ## One way to sort -/

/-- Entries in the order of distinct texts can be arranged in one way only. -/
theorem FunctionEntry.eq_of_sorted {entries entries' : List FunctionEntry}
    (hperm : entries.Perm entries') (hdistinct : (entries.map FunctionEntry.op).Nodup)
    (hsorted : entries.Pairwise fun a b => a.op ≤ b.op)
    (hsorted' : entries'.Pairwise fun a b => a.op ≤ b.op) : entries = entries' := by
  refine hperm.eq_of_pairwise (fun a b ha hb hab hba => ?_) hsorted hsorted'
  exact List.inj_on_of_nodup_map hdistinct ha (hperm.mem_iff.mpr hb) (String.le_antisymm hab hba)

/-- **What two libraries with the same functions have recorded is the same.** -/
theorem Manifest.eq_of_records {oracle : Oracle} {a b : ShapeLibrary} {manifest manifest' : Manifest}
    (hdistinct : (a.functions.map fun function => function.op.text).Nodup)
    (hfunctions : a.functions.Perm b.functions) (h : manifest.Records oracle a)
    (h' : manifest'.Records oracle b) : manifest = manifest' := by
  obtain ⟨version, functions⟩ := manifest
  obtain ⟨version', functions'⟩ := manifest'
  obtain ⟨entries, hentries, hperm⟩ := h.functions
  obtain ⟨entries', hentries', hperm'⟩ := h'.functions
  have hdescribes := FunctionEntry.describes_of_records hentries
  have hdescribes' := FunctionEntry.describes_of_records hentries'
  -- The entries of one library, brought into the order of the other one, are its entries.
  obtain ⟨others, hothers, hsame⟩ := List.perm_comp_forall₂ hfunctions hdescribes'
  obtain rfl : entries = others :=
    List.right_unique_forall₂' (FunctionEntry.describes_unique oracle) hdescribes hothers
  have htexts : entries.map FunctionEntry.op =
      a.functions.map fun function => function.op.text := by
    rw [map_eq_map_iff_forall₂]
    exact hdescribes.flip.imp fun _ _ ⟨_, hentry⟩ => hentry.op
  have heq : functions = functions' := by
    refine FunctionEntry.eq_of_sorted (hperm.trans (hsame.trans hperm'.symm)) ?_ h.sorted h'.sorted
    rw [(hperm.map FunctionEntry.op).nodup_iff, htexts]
    exact hdistinct
  rw [heq, show version = version' from h.version.trans h'.version.symm]

/-! ## Runs -/

/-- There is a manifest exactly if all trials pass and the registry accepts every function. -/
theorem generate_answers {library : ShapeLibrary} {oracle : Oracle} {registry : Registry} :
    (∃ manifest, generate library oracle registry = .ok manifest) ↔
      library.Passes oracle ∧ ∀ function ∈ library.functions, registry.Accepts function := by
  rw [← verifyAll_answers, ← Registry.checkAll_eq_ok]
  constructor
  · rintro ⟨manifest, h⟩
    obtain ⟨verified, hverified, hregistry, -⟩ := generate_eq_ok.mp h
    exact ⟨⟨verified, hverified⟩, hregistry⟩
  · rintro ⟨⟨verified, hverified⟩, hregistry⟩
    exact ⟨_, generate_eq_ok.mpr ⟨verified, hverified, hregistry, rfl⟩⟩

/-- **A run does not depend on the order of registration.**  Of two libraries that were built by
names and have the same functions, in whatever orders, both have a manifest or neither has one, and
the two manifests and their texts are the same. -/
theorem generate_ignores_order {a b : ShapeLibrary} (ha : a.BuiltByName)
    (hfunctions : a.functions.Perm b.functions)
    (htokens : ∀ function ∈ a.functions, function.IgnoresTokens) (oracle : Oracle)
    (registry : Registry) :
    ((∃ manifest, generate a oracle registry = .ok manifest) ↔
        ∃ manifest, generate b oracle registry = .ok manifest) ∧
      ∀ manifest manifest', generate a oracle registry = .ok manifest →
        generate b oracle registry = .ok manifest' →
        manifest = manifest' ∧ manifest.text = manifest'.text := by
  have hmem : ∀ function, function ∈ b.functions ↔ function ∈ a.functions :=
    fun _ => hfunctions.mem_iff.symm
  constructor
  · rw [generate_answers, generate_answers, ShapeLibrary.passes_iff htokens,
      ShapeLibrary.passes_iff fun function hfunction => htokens function ((hmem function).mp hfunction)]
    simp only [hmem]
  · intro manifest manifest' h h'
    obtain ⟨verified, hverified, -, rfl⟩ := generate_eq_ok.mp h
    obtain ⟨verified', hverified', -, rfl⟩ := generate_eq_ok.mp h'
    have heq := Manifest.eq_of_records ha.nodup_texts hfunctions
      (Manifest.records_ofVerified hverified) (Manifest.records_ofVerified hverified')
    exact ⟨heq, congrArg Manifest.text heq⟩

/-- Register a count, whose shape is left open, and say that it fails without arguments. -/
def countActions : List LibraryAction := [
  .register "aten::bincount" { params := [Builtin.param "self" .tensor], returns := 1 }
    Builtin.binCount,
  .addInvocations (Builtin.aten "bincount") [.fails []],
  .markExempt (Builtin.aten "bincount")]

/-- Register a copy, and say that it fails without arguments. -/
def copyActions : List LibraryAction := [
  .register "aten::clone" { params := [Builtin.param "self" .tensor], returns := 1 }
    (Builtin.one Builtin.selfShape),
  .addInvocations (Builtin.aten "clone") [.fails []],
  .markExempt (Builtin.aten "clone")]

/-- An oracle that knows no operator. -/
def refusingOracle : Oracle := fun op _ => Checked.refuse (.unknownOperator op.text)

/-- A count and a copy that are registered in either order have one manifest. -/
theorem generate_ignores_order_swapped :
    ∃ manifest,
      generate (.run .empty (countActions ++ copyActions)) refusingOracle .empty = .ok manifest ∧
        generate (.run .empty (copyActions ++ countActions)) refusingOracle .empty = .ok manifest := by
  have hbuilt : ShapeLibrary.BuiltByName (.run .empty (countActions ++ copyActions)) :=
    ⟨_, by simp [countActions, copyActions, LibraryAction.ByName], rfl⟩
  have hperm : (ShapeLibrary.run .empty (countActions ++ copyActions)).functions.Perm
      (ShapeLibrary.run .empty (copyActions ++ countActions)).functions :=
    List.Perm.swap _ _ []
  have htokens : ∀ function ∈ (ShapeLibrary.run .empty (countActions ++ copyActions)).functions,
      function.IgnoresTokens :=
    List.forall_mem_cons.mpr ⟨Builtin.ignoresTokens_binCount rfl,
      List.forall_mem_singleton.mpr (Builtin.ignoresTokens_one rfl)⟩
  obtain ⟨hiff, hsame⟩ := generate_ignores_order hbuilt hperm htokens refusingOracle .empty
  obtain ⟨manifest, hmanifest⟩ : ∃ manifest,
      generate (.run .empty (countActions ++ copyActions)) refusingOracle .empty = .ok manifest :=
    ⟨_, rfl⟩
  obtain ⟨manifest', hmanifest'⟩ := hiff.mp ⟨manifest, hmanifest⟩
  obtain ⟨rfl, -⟩ := hsame manifest manifest' hmanifest hmanifest'
  exact ⟨manifest, hmanifest, hmanifest'⟩

end OpShape
