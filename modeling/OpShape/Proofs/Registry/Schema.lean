/-
# `OpShape.Proofs.Registry.Schema` — every schema that can be written is read.

The name of the operator ends at the first round bracket, and the parameters end at the bracket that
closes it, because the brackets of the parameters pair off.  What is read is the operator that was
meant, with the parameters in their order and as many results as were written.
-/
import OpShape.Proofs.OpName
import OpShape.Proofs.Registry.Reading

namespace OpShape

open Text

namespace Schema

/-! ## Names of operators -/

/-- An operator name is written with plain characters. -/
theorem NameForm.plain (form : NameForm) : Plain form.op.text.toList := by
  have hscope := form.scope.plain
  have hname := form.name.plain
  unfold Identifier.chars at hscope hname
  cases hoverload : form.overload? with
  | none =>
    simp only [OpName.text, NameForm.op, hoverload, Option.map_none, String.toList_append]
    exact (hscope.append (by decide)).append hname
  | some overload =>
    simp only [OpName.text, NameForm.op, hoverload, Option.map_some, String.toList_append]
    exact (((hscope.append (by decide)).append hname).append (by decide)).append overload.plain

theorem NameForm.ofChars?_text (form : NameForm) :
    OpName.ofChars? (trim form.op.text.toList) = some form.op := by
  have hread : OpName.ofChars? form.op.text.toList = some form.op := by
    refine OpName.ofChars?_text form.scope.isIdentifier form.name.isIdentifier ?_
    intro text htext
    obtain ⟨overload, -, rfl⟩ := Option.map_eq_some_iff.mp htext
    exact overload.isIdentifier
  have hne : form.op.text.toList ≠ [] := by
    intro hnil
    rw [hnil] at hread
    cases hread
  rw [(form.plain.solid hne).trim_eq, hread]

/-! ## Parameters -/

theorem ItemForm.solid (form : ItemForm) : Solid form.chars := by
  cases form with
  | star => exact .of_all (by decide) (by decide)
  | param form => exact form.solid

theorem ItemForm.balanced (form : ItemForm) : Balanced false form.chars := by
  cases form with
  | star => exact .of_all (by decide)
  | param form => exact form.balanced

/-- **Stars are dropped, and what is left is read parameter by parameter.** -/
theorem mapM_parseParam (items : List ItemForm) :
    ((items.map ItemForm.chars).filter fun param => param ≠ ['*']).mapM parseParam =
      .ok (items.filterMap ItemForm.param?) := by
  induction items with
  | nil => rfl
  | cons item items ih =>
    cases item with
    | star => exact ih
    | param form =>
      have hkeep : ((form.chars :: items.map ItemForm.chars).filter fun param => param ≠ ['*']) =
          form.chars :: (items.map ItemForm.chars).filter fun param => param ≠ ['*'] :=
        List.filter_cons_of_pos (decide_eq_true form.ne_star)
      rw [List.map_cons, ItemForm.chars, hkeep, List.mapM_cons, form.parseParam_chars, ok_bind, ih]
      rfl

theorem parseParams_itemChars (schema : SchemaForm) :
    parseParams schema.itemChars = .ok schema.signature.params := by
  obtain ⟨name, items, returns⟩ := schema
  unfold SchemaForm.itemChars SchemaForm.signature parseParams
  dsimp only
  cases items with
  | nil => rfl
  | cons item items =>
    have hne : (item :: items).map ItemForm.chars ≠ [] := List.cons_ne_nil _ _
    have hsolid : ∀ chars ∈ (item :: items).map ItemForm.chars, Solid chars :=
      List.forall_mem_map.mpr fun item _ => item.solid
    have hbalanced : ∀ chars ∈ (item :: items).map ItemForm.chars, Balanced false chars :=
      List.forall_mem_map.mpr fun item _ => item.balanced
    have htext : Solid (commaList 1 ((item :: items).map ItemForm.chars)) :=
      .intercalate _ hne hsolid
    rw [htext.trim_eq, List.isEmpty_eq_false_iff.mpr htext.ne_nil, if_neg Bool.false_ne_true,
      map_trim_outerPieces hne hsolid hbalanced, mapM_parseParam]

/-! ## Results -/

theorem EntryForm.solid (form : EntryForm) : Solid form.chars := by
  unfold EntryForm.chars
  split
  · exact form.type.solid
  · next name _ => exact form.type.solid.around name.solid [' ']

theorem EntryForm.balanced (form : EntryForm) : Balanced false form.chars := by
  unfold EntryForm.chars
  split
  · exact form.type.balanced
  · next name _ =>
    exact form.type.balanced.append
      (.char rfl (fun h => absurd h (by decide)) name.plain.balanced)

theorem ReturnForm.solid (form : ReturnForm) : Solid form.chars := by
  cases form with
  | one type => exact type.solid
  | many gap entries => exact .enclosed (by decide) (by decide) _

/-- A type starts with no bracket. -/
theorem TypeForm.not_mem_head? (type : TypeForm) : '(' ∉ type.chars.head? := by
  obtain ⟨hplain, hne⟩ := plain_of_mem_typeWords type.word_mem_typeWords
  intro hhead
  rw [TypeForm.chars, List.head?_append_of_ne_nil _ hne] at hhead
  exact hplain.not_mem (by decide) (List.mem_of_mem_head? hhead)

/-- **The number of results is the number of entries**, or one where no brackets are. -/
theorem countReturns_chars (form : ReturnForm) : countReturns form.chars = form.count := by
  unfold countReturns
  cases form with
  | one type =>
    rw [ReturnForm.chars, stripStart_eq_none type.not_mem_head?]
    rfl
  | many gap entries =>
    rw [ReturnForm.chars, strip_enclosed]
    dsimp only
    cases entries with
    | nil => rfl
    | cons entry entries =>
      have hne : (entry :: entries).map EntryForm.chars ≠ [] := List.cons_ne_nil _ _
      have hsolid : ∀ chars ∈ (entry :: entries).map EntryForm.chars, Solid chars :=
        List.forall_mem_map.mpr fun entry _ => entry.solid
      have hbalanced : ∀ chars ∈ (entry :: entries).map EntryForm.chars, Balanced false chars :=
        List.forall_mem_map.mpr fun entry _ => entry.balanced
      have htext : Solid (commaList gap ((entry :: entries).map EntryForm.chars)) :=
        .intercalate _ hne hsolid
      have hpieces : (outerPieces ',' (commaList gap ((entry :: entries).map EntryForm.chars))).map
          trim = (entry :: entries).map EntryForm.chars :=
        map_trim_outerPieces hne hsolid hbalanced
      have hlength := congrArg List.length hpieces
      rw [List.length_map, List.length_map] at hlength
      rw [htext.trim_eq, List.isEmpty_eq_false_iff.mpr htext.ne_nil, if_neg Bool.false_ne_true,
        hlength]
      rfl

/-! ## Schemas -/

/-- A text in front of what is found. -/
def inFront (text : List Char) (parts : List Char × List Char) : List Char × List Char :=
  (text ++ parts.1, parts.2)

theorem cutClosing_cons {c : Char} (hopen : c ≠ '(') (hclose : c ≠ ')') (depth : Nat)
    (rest : List Char) :
    cutClosing depth (c :: rest) = (cutClosing depth rest).map (inFront [c]) := by
  rw [cutClosing.eq_def]
  dsimp only
  rw [if_neg hclose, if_neg hopen]
  rfl

theorem cutClosing_open (depth : Nat) (rest : List Char) :
    cutClosing depth ('(' :: rest) = (cutClosing (depth + 1) rest).map (inFront ['(']) := rfl

theorem cutClosing_close (depth : Nat) (rest : List Char) :
    cutClosing (depth + 1) (')' :: rest) = (cutClosing depth rest).map (inFront [')']) := rfl

theorem map_inFront (x y : List Char) (parts? : Option (List Char × List Char)) :
    (parts?.map (inFront y)).map (inFront x) = parts?.map (inFront (x ++ y)) := by
  rw [Option.map_map]
  congr 1
  funext parts
  rw [Function.comp_apply, inFront, inFront, inFront, List.append_assoc]

/-- **A text whose brackets pair off is passed over**: no bracket in it closes an earlier one. -/
theorem cutClosing_append {commas : Bool} {text : List Char} (h : Balanced commas text)
    (depth : Nat) (rest : List Char) :
    cutClosing depth (text ++ rest) = (cutClosing depth rest).map (inFront text) := by
  induction h generalizing depth rest with
  | nil => exact Option.map_id'.symm
  | @char commas c text hc _ _ ih =>
    have hopen : c ≠ '(' := by
      rintro rfl
      cases hc
    have hclose : c ≠ ')' := by
      rintro rfl
      cases hc
    rw [List.cons_append, cutClosing_cons hopen hclose, ih, map_inFront]
    rfl
  | @pair commas bracket inner text hbracket _ _ ihinner ihtext =>
    have htext : bracket.1 :: (inner ++ bracket.2 :: text) =
        [bracket.1] ++ (inner ++ ([bracket.2] ++ text)) := rfl
    rw [htext, ← map_inFront, ← map_inFront, ← map_inFront, ← ihtext, List.append_assoc,
      List.append_assoc, List.append_assoc, List.singleton_append, List.singleton_append]
    rcases List.mem_pair.mp hbracket with rfl | rfl
    · rw [cutClosing_open, ihinner, cutClosing_close]
    · rw [cutClosing_cons (by decide) (by decide), ihinner,
        cutClosing_cons (by decide) (by decide)]

theorem SchemaForm.balanced_itemChars (schema : SchemaForm) : Balanced true schema.itemChars :=
  balanced_commaList (List.forall_mem_map.mpr fun item _ => item.balanced)

/-- A written schema, and the text that is read. -/
example :
    SchemaForm.chars {
      name := { scope := ⟨"aten", rfl⟩, name := ⟨"sum", rfl⟩, overload? := some ⟨"out", rfl⟩ }
      items := [
        .param { type := .tensor none false, name := ⟨"self", rfl⟩, default? := none },
        .star,
        .param { type := .ints .int none true, name := ⟨"dim", rfl⟩, default? := some .none },
        .param { type := .tensor (some ⟨⟨"a", rfl⟩, true⟩) false, name := ⟨"out", rfl⟩,
                 default? := none }]
      returns := .many 1 [{ type := .tensor (some ⟨⟨"a", rfl⟩, true⟩) false, name? := none }] } =
    "aten::sum.out(Tensor self, *, int[]? dim=None, Tensor(a!) out) -> (Tensor(a!))".toList := by
  rfl

end Schema

end OpShape
