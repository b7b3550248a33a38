/-
# `OpShape.Proofs.OpName` — an operator and its text.

A text that names an operator is the text of that operator, and an operator whose parts are words is
named by its text.  So the texts that name operators are those in which two or three words stand
with marks between them, and two operators that were named by texts are the same exactly if their
texts are.
-/
import OpShape.OpName
import OpShape.Proofs.Text.Plain

namespace OpShape.OpName

open Text

/-! ## Words -/

/-- **A word**: one or more ASCII letters, digits and underscores. -/
def IsWord (text : String) : Prop :=
  text ≠ "" ∧
    ∀ c ∈ text.toList,
      ('a' ≤ c ∧ c ≤ 'z') ∨ ('A' ≤ c ∧ c ≤ 'Z') ∨ ('0' ≤ c ∧ c ≤ '9') ∨ c = '_'

theorem isIdentifierChar_iff {c : Char} :
    isIdentifierChar c = true ↔
      ('a' ≤ c ∧ c ≤ 'z') ∨ ('A' ≤ c ∧ c ≤ 'Z') ∨ ('0' ≤ c ∧ c ≤ '9') ∨ c = '_' := by
  change (((decide ('A'.val ≤ c.val ∧ c.val ≤ 'Z'.val) ||
      (decide ('a'.val ≤ c.val) && decide (c.val ≤ 'z'.val))) ||
    (decide ('0'.val ≤ c.val) && decide (c.val ≤ '9'.val))) || c == '_') = true ↔ _
  simp only [Bool.or_eq_true, Bool.and_eq_true, decide_eq_true_eq, beq_iff_eq, Char.le_def]
  tauto

theorem isIdentifier_iff {text : String} : isIdentifier text.toList = true ↔ IsWord text := by
  unfold isIdentifier IsWord
  simp only [Bool.and_eq_true, Bool.not_eq_true', List.all_eq_true, isIdentifierChar_iff,
    List.isEmpty_eq_false_iff, ne_eq, String.toList_eq_nil_iff]

theorem isWord_ofList {chars : List Char} (h : isIdentifier chars = true) :
    IsWord (String.ofList chars) :=
  isIdentifier_iff.mp (by rwa [String.toList_ofList])

/-- **The operator has a name that can be written**: each of its parts is a word. -/
structure WellFormed (op : OpName) : Prop where
  scope : IsWord op.scope
  name : IsWord op.name
  overload : ∀ overload ∈ op.overload, IsWord overload

theorem wellFormed_plain {scope name : List Char} (hscope : isIdentifier scope = true)
    (hname : isIdentifier name = true) :
    WellFormed { scope := String.ofList scope, name := String.ofList name, overload := none } where
  scope := isWord_ofList hscope
  name := isWord_ofList hname
  overload := nofun

theorem wellFormed_overloaded {scope name overload : List Char}
    (hscope : isIdentifier scope = true) (hname : isIdentifier name = true)
    (hoverload : isIdentifier overload = true) :
    WellFormed { scope := String.ofList scope, name := String.ofList name,
                 overload := some (String.ofList overload) } where
  scope := isWord_ofList hscope
  name := isWord_ofList hname
  overload _ hsome := Option.some.inj hsome ▸ isWord_ofList hoverload

/-- **How an operator is written**: words with two colons and perhaps a point between them. -/
inductive Spells : String → OpName → Prop
  | plain {scope name : String} : IsWord scope → IsWord name →
      Spells (scope ++ "::" ++ name) { scope, name, overload := none }
  | overloaded {scope name overload : String} : IsWord scope → IsWord name → IsWord overload →
      Spells (scope ++ "::" ++ name ++ "." ++ overload) { scope, name, overload := some overload }

theorem spells_iff {text : String} {op : OpName} :
    Spells text op ↔ op.WellFormed ∧ op.text = text := by
  constructor
  · intro h
    cases h with
    | plain hscope hname => exact ⟨⟨hscope, hname, fun _ hnone => (by cases hnone)⟩, rfl⟩
    | overloaded hscope hname hoverload =>
      exact ⟨⟨hscope, hname, fun _ hsome => Option.some.inj hsome ▸ hoverload⟩, rfl⟩
  · rintro ⟨⟨hscope, hname, hoverload⟩, rfl⟩
    obtain ⟨scope, name, overload⟩ := op
    cases overload with
    | none => exact .plain hscope hname
    | some overload => exact .overloaded hscope hname (hoverload overload rfl)

/-! ## From the text to the operator and back -/

/-- **What is read as a name has words for its parts and is written as the same text.** -/
theorem spelled_of_ofChars? {chars : List Char} {op : OpName} (h : ofChars? chars = some op) :
    op.WellFormed ∧ op.text.toList = chars := by
  obtain ⟨⟨scope, rest⟩, hcut, h⟩ := Option.bind_eq_some_iff.mp h
  obtain ⟨_, hscope, h⟩ := Option.bind_eq_some_iff.mp h
  have hscope : isIdentifier scope = true := by simpa [guard] using hscope
  rw [eq_of_cutPair hcut]
  cases hrest : cutFirst '.' rest with
  | none =>
    rw [hrest] at h
    obtain ⟨_, hname, h⟩ := Option.bind_eq_some_iff.mp h
    have hname : isIdentifier rest = true := by simpa [guard] using hname
    obtain rfl := Option.some.inj h
    refine ⟨wellFormed_plain hscope hname, ?_⟩
    simp [text]
  | some parts =>
    obtain ⟨name, overload⟩ := parts
    rw [hrest] at h
    obtain ⟨_, hname, h⟩ := Option.bind_eq_some_iff.mp h
    obtain ⟨_, hoverload, h⟩ := Option.bind_eq_some_iff.mp h
    have hname : isIdentifier name = true := by simpa [guard] using hname
    have hoverload : isIdentifier overload = true := by simpa [guard] using hoverload
    obtain rfl := Option.some.inj h
    rw [eq_of_cutFirst hrest]
    refine ⟨wellFormed_overloaded hscope hname hoverload, ?_⟩
    simp [text]

/-- A text that is given by its characters spells an operator if these can be read. -/
theorem spells_ofList {chars : List Char} (h : (ofChars? chars).isSome = true) :
    ∃ op, Spells (String.ofList chars) op := by
  obtain ⟨op, hop⟩ := Option.isSome_iff_exists.mp h
  obtain ⟨hwell, hchars⟩ := spelled_of_ofChars? hop
  exact ⟨op, spells_iff.mpr ⟨hwell, by rw [← hchars, String.ofList_toList]⟩⟩

theorem text_of_ofText? {text : String} {op : OpName} (h : ofText? text = some op) :
    op.text = text :=
  String.toList_injective (spelled_of_ofChars? h).2

/-- **A name made of identifiers is read as itself.** -/
theorem ofChars?_text {op : OpName} (hscope : isIdentifier op.scope.toList = true)
    (hname : isIdentifier op.name.toList = true)
    (hoverload : ∀ overload ∈ op.overload, isIdentifier overload.toList = true) :
    ofChars? op.text.toList = some op := by
  obtain ⟨scope, name, overload⟩ := op
  -- No part holds a mark, so that each cut is made where the parts were joined.
  have hcolon : ':' ∉ scope.toList := not_mem_of_isIdentifier hscope (by decide)
  have hpoint : '.' ∉ name.toList := not_mem_of_isIdentifier hname (by decide)
  cases overload with
  | none =>
    have htext : (OpName.mk scope name none).text.toList =
        scope.toList ++ ':' :: ':' :: name.toList := by
      rw [text, String.toList_append, String.toList_append, List.append_assoc]
      rfl
    simp only [htext, ofChars?, cutPair_append hcolon, Option.bind_eq_bind, Option.bind_some,
      cutFirst_eq_none hpoint, guard, hscope, hname, if_true, String.ofList_toList]
    rfl
  | some overload =>
    have htext : (OpName.mk scope name (some overload)).text.toList =
        scope.toList ++ ':' :: ':' :: (name.toList ++ '.' :: overload.toList) := by
      simp only [text, String.toList_append, List.append_assoc]
      rfl
    have hoverload := hoverload overload rfl
    simp only [htext, ofChars?, cutPair_append hcolon, Option.bind_eq_bind, Option.bind_some,
      cutFirst_append hpoint, guard, hscope, hname, hoverload, if_true, String.ofList_toList]
    rfl

/-- **Texts and well-formed operators determine each other.** -/
theorem ofText?_eq_some {text : String} {op : OpName} :
    ofText? text = some op ↔ op.WellFormed ∧ op.text = text := by
  constructor
  · intro h
    exact ⟨(spelled_of_ofChars? h).1, text_of_ofText? h⟩
  · rintro ⟨hop, rfl⟩
    refine ofChars?_text (isIdentifier_iff.mpr hop.scope) (isIdentifier_iff.mpr hop.name) ?_
    exact fun overload hoverload => isIdentifier_iff.mpr (hop.overload overload hoverload)

/-- The operator can be named: some text is read as it. -/
def Named (op : OpName) : Prop :=
  ∃ text, ofText? text = some op

theorem named_iff {op : OpName} : op.Named ↔ op.WellFormed := by
  unfold Named
  simp only [ofText?_eq_some, exists_and_left, exists_eq', and_true]

/-- **Two operators that can be named are told apart by their texts.** -/
theorem Named.eq_of_text_eq {a b : OpName} (ha : a.Named) (hb : b.Named) (h : a.text = b.text) :
    a = b := by
  obtain ⟨s, hs⟩ := ha
  obtain ⟨t, ht⟩ := hb
  have heq : s = t := by
    rw [← text_of_ofText? hs, ← text_of_ofText? ht, h]
  rw [heq, ht] at hs
  exact (Option.some.inj hs).symm

end OpShape.OpName
