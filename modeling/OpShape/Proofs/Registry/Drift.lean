/-
# `OpShape.Proofs.Registry.Drift` — a function that passes the check has not drifted.

A registry compares texts.  The names that it reads from schemas hold no space, because a name is
what stands behind the last space of a parameter, and so two signatures of one text are the same
parameter by parameter.  A function that is accepted thus binds every call as its operator does.
-/
import OpShape.Builtin.Index
import OpShape.Proofs.Call.SameBinding
import OpShape.Proofs.Text.Cut
import OpShape.Registry.Check

namespace OpShape

/-! ## Names in schemas -/

/-- The names of the parameters hold no space. -/
def Signature.NamesUnspaced (signature : Signature) : Prop :=
  ∀ param ∈ signature.params, ' ' ∉ param.name.toList

namespace Schema

/-- The name of a parameter that is read from a schema holds no space. -/
theorem unspaced_parseParam {text : List Char} {param : Param} (h : parseParam text = .ok param) :
    ' ' ∉ param.name.toList := by
  -- Whether there is a default or not, the name is what stands behind the last space.
  have hname : ∃ declared type name, Text.cutLast ' ' declared = some (type, name) ∧
      param.name = String.ofList (Text.trim name) := by
    unfold parseParam at h
    dsimp only at h
    split at h
    · cases h
    · next type name hcut =>
      obtain ⟨kind, -, h⟩ := bind_eq_ok.mp h
      refine ⟨_, type, name, hcut, ?_⟩
      split at h
      · obtain ⟨default, -, h⟩ := bind_eq_ok.mp h
        rw [← Except.ok.inj h]
      · obtain ⟨default, -, h⟩ := bind_eq_ok.mp h
        rw [← Except.ok.inj h]
  obtain ⟨declared, type, name, hcut, hparam⟩ := hname
  rw [hparam, String.toList_ofList]
  exact fun hmem => Text.not_mem_of_cutLast hcut (Text.mem_of_mem_trim hmem)

theorem unspaced_parse {text : List Char} {op : OpName} {signature : Signature}
    (h : parse text = .ok (op, signature)) : signature.NamesUnspaced := by
  have hparams : ∃ text, parseParams text = .ok signature.params := by
    unfold parse at h
    split at h
    · cases h
    split at h
    · cases h
    split at h
    · cases h
    split at h
    · cases h
    obtain ⟨params, hparams, h⟩ := bind_eq_ok.mp h
    obtain ⟨-, rfl⟩ := Prod.mk.inj (Except.ok.inj h)
    exact ⟨_, hparams⟩
  obtain ⟨text, hparams⟩ := hparams
  intro param hparam
  unfold parseParams at hparams
  dsimp only at hparams
  split at hparams
  · rw [← Except.ok.inj hparams] at hparam
    cases hparam
  · obtain ⟨piece, -, hpiece⟩ := exists_of_forall₂_right (mapM_eq_ok.mp hparams) hparam
    exact unspaced_parseParam hpiece

end Schema

namespace Registry

/-- No schema of the registry has a space in a name. -/
def NamesUnspaced (registry : Registry) : Prop :=
  ∀ entry ∈ registry.entries, entry.2.NamesUnspaced

/-- **One more line** adds no name with a space. -/
theorem NamesUnspaced.addLine {registry next : Registry} {entry : List Char × Nat}
    (h : registry.NamesUnspaced) (hline : registry.addLine entry = .ok next) :
    next.NamesUnspaced := by
  unfold Registry.addLine at hline
  dsimp only at hline
  split at hline
  · rw [← Except.ok.inj hline]
    exact h
  split at hline
  · cases hline
  next op signature hparse =>
  split at hline
  · cases hline
  rw [← Except.ok.inj hline]
  intro added hadded
  rcases List.mem_append.mp hadded with hold | hnew
  · exact h added hold
  · rw [List.mem_singleton.mp hnew]
    exact Schema.unspaced_parse hparse

/-- **No name of a registry that was read holds a space.** -/
theorem unspaced_of_parse {text : String} {registry : Registry} (h : parse text = .ok registry) :
    registry.NamesUnspaced :=
  foldlM_keeps (fun _ _ _ hnames hline => hnames.addLine hline) (fun _ hmem => by cases hmem) h

theorem NamesUnspaced.signature? {registry : Registry} {op : OpName} {signature : Signature}
    (h : registry.NamesUnspaced) (hsignature : registry.signature? op = some signature) :
    signature.NamesUnspaced := by
  obtain ⟨entry, hentry, rfl⟩ := Option.map_eq_some_iff.mp hsignature
  exact h entry (List.mem_of_find?_eq_some hentry)

/-! ## Drift -/

theorem check_eq_ok {registry : Registry} {function : ShapeFunction} :
    registry.check function = .ok () ↔
      ∃ signature, registry.signature? function.op = some signature ∧
        signature.text = function.signature.text := by
  unfold check
  cases registry.signature? function.op with
  | none => simp
  | some signature =>
    dsimp only
    split
    · next htext => exact iff_of_true rfl ⟨signature, rfl, htext⟩
    · next htext => simpa using htext

/-- Identifiers hold no space. -/
theorem unspaced_of_identifiers {function : ShapeFunction}
    (h : ∀ param ∈ function.signature.params, OpName.isIdentifier param.name.toList = true) :
    function.signature.NamesUnspaced :=
  fun param hparam => Text.not_mem_of_isIdentifier (h param hparam) (by decide)

/-- **A function is accepted exactly if its signature is the same as that of its operator**: as many
parameters, of the same names, kinds and defaults, and as many results.  It then binds every call as
the signature of the operator does, or refuses it for the same reason.  An equal signature is always
accepted. -/
theorem check_accepts_iff_same {text : String} {registry : Registry}
    (hregistry : parse text = .ok registry) {function : ShapeFunction}
    (hnames : ∀ param ∈ function.signature.params, OpName.isIdentifier param.name.toList = true) :
    (registry.check function = .ok () ↔
      ∃ signature, registry.signature? function.op = some signature ∧
        signature.SameAs function.signature) ∧
    (∀ signature, registry.signature? function.op = some signature →
      registry.check function = .ok () →
        ∀ (τ : Type) (args : CallArgs τ),
          EndsSame BoundArgs.SameAs (signature.bind args) (function.signature.bind args)) ∧
    (registry.signature? function.op = some function.signature →
      registry.check function = .ok ()) := by
  have hsame : ∀ signature, registry.signature? function.op = some signature →
      (signature.text = function.signature.text ↔ signature.SameAs function.signature) :=
    fun signature hsignature => Signature.text_eq_iff
      ((unspaced_of_parse hregistry).signature? hsignature) (unspaced_of_identifiers hnames)
  refine ⟨?_, ?_, fun hequal => check_eq_ok.mpr ⟨_, hequal, rfl⟩⟩
  · rw [check_eq_ok]
    constructor
    · rintro ⟨signature, hsignature, htext⟩
      exact ⟨signature, hsignature, (hsame signature hsignature).mp htext⟩
    · rintro ⟨signature, hsignature, hsameAs⟩
      exact ⟨signature, hsignature, (hsame signature hsignature).mpr hsameAs⟩
  · intro signature hsignature haccepted τ args
    obtain ⟨found, hfound, htext⟩ := check_eq_ok.mp haccepted
    obtain rfl : found = signature := Option.some.inj (hfound.symm.trans hsignature)
    exact ((hsame found hfound).mp htext).bind args

/-- A default that holds a comma, and two results: the check passes, and calls are bound alike. -/
theorem check_accepts_iff_same_pair :
    let function : ShapeFunction := {
      op := Builtin.aten "pair"
      signature := {
        params := [
          { name := "self", type := .tensor, default := none },
          { name := "by", type := .intList, default := some (.intList [0, 0]) }]
        returns := 2 }
      compute := Builtin.many Builtin.greatest
      invocations := []
      isExempt := false }
    let registry : Registry := { entries := [(function.op, function.signature)] }
    parse "aten::pair(Tensor self, int[2] by=0) -> (Tensor, Tensor)" = .ok registry ∧
      registry.check function = .ok () ∧
      (∃ signature, registry.signature? function.op = some signature ∧
        signature.SameAs function.signature) := by
  intro function registry
  have hparse : parse "aten::pair(Tensor self, int[2] by=0) -> (Tensor, Tensor)" =
      .ok registry := by rfl
  have hnames : ∀ param ∈ function.signature.params,
      OpName.isIdentifier param.name.toList = true := by decide
  obtain ⟨hiff, -, haccepts⟩ := check_accepts_iff_same hparse hnames
  have haccepted : registry.check function = .ok () := haccepts rfl
  exact ⟨hparse, haccepted, hiff.mp haccepted⟩

end Registry

end OpShape
