/-
# `OpShape.Proofs.Run.Names` — one operator has one name in all tables.

A run looks an operator up in three tables.  A library and a registry have it as a name in its
parts, and the table of the oracle as a text.  The names of a library that was built by names and of
a registry that was read are made of words, and so are those of the oracle, so that a text of one
table and a name of another are of the same operator exactly if the text is that of the name.
-/
import OpShape.Oracle.Reference
import OpShape.Proofs.Builtin.Entry
import OpShape.Proofs.Registry.Loading
import OpShape.Proofs.Run.Order

namespace OpShape

/-! ## The table of the oracle -/

namespace Operator

/-- The operator that is written down for a name in its parts. -/
def ofOp? (draws : Draws) (op : OpName) : Option Operator :=
  ((table draws).find? fun entry => OpName.ofText? entry.1 = some op).map Prod.snd

/-- **Each text of the table names an operator.** -/
theorem spells_of_mem_table (draws : Draws) :
    ∀ entry ∈ table draws, ∃ op, OpName.Spells entry.1 op := by
  simp only [table, steadyTable, chanceTable, unaryTable, binaryTable, reduceTable, matmulTable, layoutTable, creationTable,
    indexTable, padTable, convTable, poolTable, softmaxTable, normTable, lossTable,
    List.forall_mem_append, List.forall_mem_cons]
  repeat' apply And.intro
  -- Each text is taken for the list of its characters, which is read much faster.
  all_goals first | exact OpName.spells_ofList (by decide +kernel) | exact List.forall_mem_nil _

/-- **The text of a name finds what the name finds.** -/
theorem ofName?_text (draws : Draws) {op : OpName} (h : op.WellFormed) :
    ofName? draws op.text = ofOp? draws op := by
  have hsame : ∀ text, (text == op.text) = decide (OpName.ofText? text = some op) := by
    intro text
    rw [Bool.eq_iff_iff, beq_iff_eq, decide_eq_true_eq, OpName.ofText?_eq_some]
    exact ⟨fun htext => ⟨h, htext.symm⟩, fun htext => htext.2.symm⟩
  unfold ofOp?
  rw [ofName?_eq]
  simp only [hsame]

end Operator

/-! ## The names of a registry and of a library -/

/-- What a schema names is made of words. -/
theorem Schema.wellFormed_of_parse {text : List Char} {op : OpName} {signature : Signature}
    (h : parse text = .ok (op, signature)) : op.WellFormed := by
  unfold parse at h
  split at h
  · cases h
  split at h
  · cases h
  next name hname =>
  split at h
  · cases h
  split at h
  · cases h
  obtain ⟨params, -, h⟩ := bind_eq_ok.mp h
  obtain ⟨rfl, -⟩ := Prod.mk.inj (Except.ok.inj h)
  exact (OpName.spelled_of_ofChars? hname).1

/-- The names of a registry that was read are made of words. -/
theorem Registry.wellFormed_of_parse {text : String} {registry : Registry}
    (h : parse text = .ok registry) : ∀ entry ∈ registry.entries, entry.1.WellFormed := by
  rintro ⟨op, signature⟩ hentry
  obtain ⟨row, -, -, hparse⟩ := (holds_of_parse h).mem_entries.mp hentry
  exact Schema.wellFormed_of_parse hparse

/-- The names of the built-in functions are made of words. -/
theorem Builtin.wellFormed_functions : ∀ function ∈ functions, function.op.WellFormed := by
  apply forall_functions
  all_goals
    simp only [unaryFamily, plainOps, backwardFamily, convertFamily, scalarFamily, scalarOps,
      scaledScalarOps, scalarEntry, scaledScalarEntry, broadcastFamily, pairOps, scaledSumEntry,
      pairEntry, addedEntry, reduceFamily, truthEntry, totalEntry, spreadEntry, dimsEntry,
      matmulFamily, layoutFamily, viewEntry, creationFamily, filledEntry, likeEntry, newEntry,
      indexFamily, padFamily, inPlaceFamily, convFamily, poolFamily, softmaxFamily,
      softmaxOfHalvesEntry, softmaxEntry, softmaxGradientEntry, normFamily, lossFamily,
      List.forall_mem_append, List.forall_mem_cons, List.forall_mem_map, op_entry,
      ShapeFunction.op_markExempt]
    repeat' apply And.intro
  all_goals first
    | exact OpName.wellFormed_plain (by decide +kernel) (by decide +kernel)
    | exact OpName.wellFormed_overloaded (by decide +kernel) (by decide +kernel) (by decide +kernel)
    | exact List.forall_mem_nil _

/-! ## The three tables -/

/-- The operator stands in one of the three tables. -/
inductive Tabled (library : ShapeLibrary) (registry : Registry) : OpName → Prop
  | library {function : ShapeFunction} :
      function ∈ library.functions → Tabled library registry function.op
  | registry {entry : OpName × Signature} :
      entry ∈ registry.entries → Tabled library registry entry.1
  | oracle {draws : Draws} {entry : String × Operator} {op : OpName} :
      entry ∈ Operator.table draws → OpName.Spells entry.1 op → Tabled library registry op

theorem Tabled.wellFormed {library : ShapeLibrary} {registry : Registry} {text : String}
    {op : OpName} (hlibrary : ∀ function ∈ library.functions, function.op.WellFormed)
    (hregistry : Registry.parse text = .ok registry) (h : Tabled library registry op) :
    op.WellFormed := by
  cases h with
  | library hfunction => exact hlibrary _ hfunction
  | registry hentry => exact Registry.wellFormed_of_parse hregistry _ hentry
  | oracle _ hspells => exact (OpName.spells_iff.mp hspells).1

/-- **Names and texts determine each other.**  A text is read as an operator exactly if it spells
that operator, which means that it is two or three words with the marks between them; it then is the
text of this operator and of no other; and an operator that is made of words is read from its text.
The built-in functions and those of a library that was built by names have such operators.  So it
does not matter that the oracle has texts where the library and the registry have names: each text
of the oracle spells an operator, the text of an operator finds there what the operator finds, and
operators of the three tables are the same exactly if their texts are. -/
theorem texts_and_names_determine_each_other :
    (∀ text op, OpName.ofText? text = some op ↔ OpName.Spells text op) ∧
      (∀ text op, OpName.Spells text op →
        op.text = text ∧ ∀ other, OpName.Spells text other → other = op) ∧
      (∀ op : OpName, op.WellFormed → OpName.ofText? op.text = some op) ∧
      (∀ function ∈ Builtin.functions, function.op.WellFormed) ∧
      (∀ library : ShapeLibrary, library.BuiltByName →
        ∀ function ∈ library.functions, function.op.WellFormed) ∧
      (∀ draws, ∀ entry ∈ Operator.table draws, ∃ op, OpName.Spells entry.1 op) ∧
      ∀ (library : ShapeLibrary) (text : String) (registry : Registry),
        (∀ function ∈ library.functions, function.op.WellFormed) →
        Registry.parse text = .ok registry →
          ∀ op, Tabled library registry op →
            (∀ draws, Operator.ofName? draws op.text = Operator.ofOp? draws op) ∧
              ∀ other, Tabled library registry other → (op.text = other.text ↔ op = other) := by
  have hread : ∀ text op, OpName.ofText? text = some op ↔ OpName.Spells text op := by
    intro text op
    rw [OpName.ofText?_eq_some, OpName.spells_iff]
  refine ⟨hread, ?_, ?_, Builtin.wellFormed_functions, ?_, Operator.spells_of_mem_table, ?_⟩
  · intro text op hspells
    refine ⟨(OpName.spells_iff.mp hspells).2, ?_⟩
    intro other hother
    have hsome := (hread text op).mpr hspells
    rw [(hread text other).mpr hother] at hsome
    exact Option.some.inj hsome
  · intro op hop
    exact OpName.ofText?_eq_some.mpr ⟨hop, rfl⟩
  · intro library hlibrary function hfunction
    exact OpName.named_iff.mp (hlibrary.named function hfunction)
  · intro library text registry hlibrary hregistry op hop
    have hwell := hop.wellFormed hlibrary hregistry
    refine ⟨fun draws => Operator.ofName?_text draws hwell, fun other hother => ⟨?_, congrArg OpName.text⟩⟩
    have hotherWell := hother.wellFormed hlibrary hregistry
    exact (OpName.named_iff.mpr hwell).eq_of_text_eq (OpName.named_iff.mpr hotherWell)

end OpShape
