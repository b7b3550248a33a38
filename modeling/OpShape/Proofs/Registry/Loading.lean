/-
# `OpShape.Proofs.Registry.Loading` — what is loaded from the text of a table.

A table is read line by line.  After any number of lines the registry holds the schemas of these
lines, in their order, and no two of them are of one operator.  The next line is passed over, or
adds its schema, or offends, and reading stops at the first line that offends.  So a text is loaded
exactly if none of its lines offends, and then the registry knows what the lines declare.
-/
import OpShape.Proofs.Keyed
import OpShape.Proofs.Registry.Check
import OpShape.Proofs.Text.Cut

namespace OpShape.Registry

open Text

/-! ## Lines -/

/-- The lines of a text: what stands between its line feeds. -/
def rows (text : String) : List (List Char) :=
  pieces '\n' text.toList

/-- A text is its lines with a line feed between each two of them, and no line holds one. -/
theorem rows_spec (text : String) :
    ['\n'].intercalate (rows text) = text.toList ∧ ∀ row ∈ rows text, '\n' ∉ row :=
  ⟨intercalate_pieces, fun _ => not_mem_of_mem_pieces⟩

/-- The line is blank, or it is a comment. -/
def Ignored (row : List Char) : Prop :=
  trim row = [] ∨ (trim row).head? = some '#'

instance (row : List Char) : Decidable (Ignored row) := instDecidableOr

theorem isIgnored_iff {row : List Char} : isIgnored (trim row) = true ↔ Ignored row := by
  simp only [isIgnored, Ignored, Bool.or_eq_true, List.isEmpty_iff, beq_iff_eq]

/-- **The line is the schema of an operator**, which has this signature. -/
def Declares (row : List Char) (op : OpName) (signature : Signature) : Prop :=
  ¬Ignored row ∧ Schema.parse (trim row) = .ok (op, signature)

/-- The schema of a line, if it is one. -/
def declared? (row : List Char) : Option (OpName × Signature) :=
  if Ignored row then none else (Schema.parse (trim row)).toOption

theorem declared?_eq_some {row : List Char} {op : OpName} {signature : Signature} :
    declared? row = some (op, signature) ↔ Declares row op signature := by
  unfold declared? Declares
  by_cases hignored : Ignored row
  · simp [hignored]
  · cases Schema.parse (trim row) <;> simp [hignored, Except.toOption]

/-- **The lines can be loaded**: each of them that counts is a schema, and no two are schemas of one
operator. -/
structure Loadable (rows : List (List Char)) : Prop where
  schemas : ∀ row ∈ rows, ¬Ignored row → ∃ op signature, Declares row op signature
  distinct : rows.Pairwise fun row later => ∀ op signature,
    Declares row op signature → ∀ repeated, ¬Declares later op repeated

/-- **How a line offends behind others**: it counts but is no schema, or it is one more schema of an
operator.  The error tells the number of the line, and lines that do not count are numbered too. -/
inductive Offends (before : List (List Char)) (row : List Char) : RegistryError → Prop
  | badLine {cause : SchemaError} :
      ¬Ignored row → Schema.parse (trim row) = .error cause →
      Offends before row (.badLine (before.length + 1) cause)
  | duplicateSchema {earlier : List Char} {op : OpName} {first signature : Signature} :
      earlier ∈ before → Declares earlier op first → Declares row op signature →
      Offends before row (.duplicateSchema (before.length + 1) op)

variable {before rest : List (List Char)} {row : List Char} {registry : Registry}

theorem loadable_nil : Loadable [] where
  schemas _ hrow := by cases hrow
  distinct := .nil

/-- In lines that can be loaded none offends. -/
theorem Loadable.not_offends (h : Loadable (before ++ row :: rest)) (error : RegistryError) :
    ¬Offends before row error := by
  have hrow : row ∈ before ++ row :: rest := List.mem_append_right _ List.mem_cons_self
  intro hoffends
  cases hoffends with
  | badLine hcounts hcause =>
    obtain ⟨op, signature, -, hparse⟩ := h.schemas row hrow hcounts
    cases hcause.symm.trans hparse
  | duplicateSchema hearlier hfirst hrepeated =>
    obtain ⟨-, -, hdistinct⟩ := List.pairwise_append.mp h.distinct
    exact hdistinct _ hearlier row List.mem_cons_self _ _ hfirst _ hrepeated

/-- Lines that can be loaded can be loaded with one more that does not offend. -/
theorem Loadable.snoc (h : Loadable before) (hrow : ∀ error, ¬Offends before row error) :
    Loadable (before ++ [row]) where
  schemas other hother hcounts := by
    rcases List.mem_append.mp hother with hother | hother
    · exact h.schemas other hother hcounts
    · obtain rfl := List.mem_singleton.mp hother
      cases hparse : Schema.parse (trim other) with
      | error cause => exact absurd (.badLine hcounts hparse) (hrow _)
      | ok entry => exact ⟨entry.1, entry.2, hcounts, hparse⟩
  distinct := by
    refine List.pairwise_append.mpr ⟨h.distinct, List.pairwise_singleton _ _, ?_⟩
    intro earlier hearlier later hlater op first hfirst signature hsignature
    rw [List.mem_singleton.mp hlater] at hsignature
    exact hrow _ (.duplicateSchema hearlier hfirst hsignature)

/-! ## One line -/

/-- **The registry holds what the lines declare**, and these can be loaded. -/
structure Holds (registry : Registry) (rows : List (List Char)) : Prop where
  loadable : Loadable rows
  entries : registry.entries = rows.filterMap declared?

theorem holds_empty : Holds empty [] where
  loadable := loadable_nil
  entries := rfl

/-- An entry is what some line declares. -/
theorem Holds.mem_entries (h : registry.Holds before) {op : OpName} {signature : Signature} :
    (op, signature) ∈ registry.entries ↔ ∃ row ∈ before, Declares row op signature := by
  rw [h.entries, List.mem_filterMap]
  simp only [declared?_eq_some]

/-- No operator has two entries. -/
theorem Holds.nodup_ops (h : registry.Holds before) :
    (registry.entries.map Prod.fst).Nodup := by
  rw [h.entries, List.nodup_iff_pairwise_ne, List.pairwise_map, List.pairwise_filterMap]
  refine h.loadable.distinct.imp ?_
  rintro row later hdistinct ⟨op, signature⟩ hrow ⟨other, repeated⟩ hlater rfl
  exact hdistinct op signature (declared?_eq_some.mp hrow) repeated (declared?_eq_some.mp hlater)

/-- **The signature of an operator is the one that some line declares.** -/
theorem Holds.signature?_eq_some (h : registry.Holds before) {op : OpName}
    {signature : Signature} :
    registry.signature? op = some signature ↔ ∃ row ∈ before, Declares row op signature := by
  rw [← h.mem_entries, signature?, find?_key_eq_some h.nodup_ops]

theorem Holds.contains_iff (h : registry.Holds before) {op : OpName} :
    registry.contains op = true ↔ ∃ row ∈ before, ∃ signature, Declares row op signature := by
  unfold contains
  rw [Option.isSome_iff_exists]
  simp only [h.signature?_eq_some]
  constructor
  · rintro ⟨signature, row, hrow, hdeclares⟩
    exact ⟨row, hrow, signature, hdeclares⟩
  · rintro ⟨row, hrow, signature, hdeclares⟩
    exact ⟨signature, row, hrow, hdeclares⟩

/-- There are as many entries as lines that count. -/
theorem Holds.size_eq (h : registry.Holds before) :
    registry.size = (before.filter fun row => ¬Ignored row).length := by
  unfold size
  rw [h.entries, List.length_filterMap_eq_countP, ← List.countP_eq_length_filter]
  refine List.countP_congr ?_
  intro row hrow
  rw [decide_eq_true_eq, Option.isSome_iff_exists]
  constructor
  · rintro ⟨⟨op, signature⟩, hdeclares⟩
    exact (declared?_eq_some.mp hdeclares).1
  · intro hcounts
    obtain ⟨op, signature, hdeclares⟩ := h.loadable.schemas row hrow hcounts
    exact ⟨(op, signature), declared?_eq_some.mpr hdeclares⟩

/-- **A line that does not offend** is passed over, or its schema is added to the others. -/
theorem Holds.addLine_eq_ok (h : registry.Holds before)
    (hrow : ∀ error, ¬Offends before row error) :
    ∃ next,
      registry.addLine (row, before.length + 1) = .ok next ∧ next.Holds (before ++ [row]) := by
  have hloadable := h.loadable.snoc hrow
  unfold addLine
  by_cases hignored : Ignored row
  · refine ⟨registry, if_pos (isIgnored_iff.mpr hignored), hloadable, ?_⟩
    simp [h.entries, declared?, hignored]
  · obtain ⟨op, signature, hdeclares⟩ :=
      hloadable.schemas row (List.mem_append_right _ List.mem_cons_self) hignored
    have hnew : ¬registry.contains op = true := by
      intro hcontains
      obtain ⟨earlier, hearlier, first, hfirst⟩ := h.contains_iff.mp hcontains
      exact hrow _ (.duplicateSchema hearlier hfirst hdeclares)
    refine ⟨{ entries := registry.entries ++ [(op, signature)] }, ?_, hloadable, ?_⟩
    · rw [if_neg (isIgnored_iff.not.mpr hignored), hdeclares.2]
      exact if_neg hnew
    · simp [h.entries, declared?_eq_some.mpr hdeclares]

/-- **A line that offends** is not added, and the error is its own. -/
theorem Holds.addLine_eq_error (h : registry.Holds before) {error : RegistryError}
    (hoffends : Offends before row error) :
    registry.addLine (row, before.length + 1) = .error error := by
  unfold addLine
  cases hoffends with
  | badLine hcounts hcause =>
    rw [if_neg (isIgnored_iff.not.mpr hcounts), hcause]
  | duplicateSchema hearlier hfirst hsignature =>
    rw [if_neg (isIgnored_iff.not.mpr hsignature.1), hsignature.2]
    exact if_pos (h.contains_iff.mpr ⟨_, hearlier, _, hfirst⟩)

/-! ## All lines -/

/-- **Reading on behind lines that were read.**  The induction is on the lines that are left, and
what is known of the registry after each of them is that it holds what was declared so far. -/
theorem Holds.foldlM_cases (h : registry.Holds before) (rest : List (List Char)) :
    (∃ final, (rest.zipIdx (before.length + 1)).foldlM addLine registry = .ok final ∧
        final.Holds (before ++ rest)) ∨
      ∃ error passed row after,
        (rest.zipIdx (before.length + 1)).foldlM addLine registry = .error error ∧
          before ++ rest = passed ++ row :: after ∧ Loadable passed ∧ Offends passed row error := by
  induction rest generalizing before registry with
  | nil =>
    rw [List.append_nil]
    exact .inl ⟨registry, rfl, h⟩
  | cons row rest ih =>
    rw [List.zipIdx_cons, List.foldlM_cons]
    by_cases hoffends : ∃ error, Offends before row error
    · obtain ⟨error, hoffends⟩ := hoffends
      rw [h.addLine_eq_error hoffends, error_bind]
      exact .inr ⟨error, before, row, rest, rfl, rfl, h.loadable, hoffends⟩
    · obtain ⟨next, hnext, hholds⟩ := h.addLine_eq_ok (not_exists.mp hoffends)
      have hrest := ih hholds
      rw [List.length_append, List.length_singleton, List.append_assoc,
        List.singleton_append] at hrest
      rw [hnext, ok_bind]
      exact hrest

/-- **Lines that can be loaded are all read**, and then the registry holds what they declare. -/
theorem Loadable.foldlM_eq_ok (h : Loadable before) :
    ∃ registry, (before.zipIdx 1).foldlM addLine empty = .ok registry ∧ registry.Holds before := by
  rcases holds_empty.foldlM_cases before with
    hread | ⟨error, passed, row, after, -, hrows, -, hoffends⟩
  · exact hread
  · rw [List.nil_append] at hrows
    rw [hrows] at h
    exact absurd hoffends (h.not_offends error)

/-- What was read holds what the lines declare. -/
theorem holds_of_parse {text : String} (h : parse text = .ok registry) :
    registry.Holds (rows text) := by
  rcases holds_empty.foldlM_cases (rows text) with ⟨found, hfound, hholds⟩ | ⟨_, _, _, _, herror, _⟩
  · obtain rfl := Except.ok.inj (hfound.symm.trans h)
    exact hholds
  · cases herror.symm.trans h

theorem parse_answers {text : String} :
    (∃ registry, parse text = .ok registry) ↔ Loadable (rows text) := by
  constructor
  · rintro ⟨registry, h⟩
    exact (holds_of_parse h).loadable
  · intro h
    obtain ⟨registry, hread, -⟩ := h.foldlM_eq_ok
    exact ⟨registry, hread⟩

/-- **The error is that of the first line that offends.** -/
theorem parse_eq_error {text : String} {error : RegistryError} :
    parse text = .error error ↔
      ∃ before row after, rows text = before ++ row :: after ∧ Loadable before ∧
        Offends before row error := by
  constructor
  · intro h
    rcases holds_empty.foldlM_cases (rows text) with
      ⟨_, hread, _⟩ | ⟨found, before, row, after, hfound, hrows, hbefore, hoffends⟩
    · cases hread.symm.trans h
    · obtain rfl := Except.error.inj (hfound.symm.trans h)
      exact ⟨before, row, after, hrows, hbefore, hoffends⟩
  · rintro ⟨before, row, after, hrows, hbefore, hoffends⟩
    obtain ⟨registry, hread, hholds⟩ := hbefore.foldlM_eq_ok
    show ((rows text).zipIdx 1).foldlM addLine empty = _
    rw [hrows, List.zipIdx_append, List.foldlM_append, hread, ok_bind, List.zipIdx_cons,
      List.foldlM_cons, Nat.add_comm, hholds.addLine_eq_error hoffends, error_bind]

end OpShape.Registry
