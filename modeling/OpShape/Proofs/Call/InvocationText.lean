/-
# `OpShape.Proofs.Call.InvocationText` — an invocation can be read off its text.

Lists, the sizes of a tensor and the arguments themselves are all separated by commas, a text between
quotes may hold any mark, and only an equals sign tells a keyword from an argument that is given by
position.  Still no two different invocations are written alike, if their keywords are identifiers.
An item starts with a word, which may be empty; the character behind the word shows what the item
is, and what is between quotes or brackets ends at its own quote or bracket.

As in signatures, *the same* means: written alike where two floats are compared, at any depth, and
equal otherwise.
-/
import OpShape.Invocation
import OpShape.Proofs.Call.SignatureText

namespace OpShape

open Text (Tells GoesOn append_inj_of_stop joined_tells)

/-! ## The same invocation -/

/-- Two arguments are the same at every depth: floats that are written alike, lists of the same
items, or equal arguments of another kind. -/
inductive Arg.Same {τ : Type} : Arg τ → Arg τ → Prop
  | tensor (value : τ) : Same (.tensor value) (.tensor value)
  | int (value : Int) : Same (.int value) (.int value)
  | float {x y : Float} (h : Decimal.floatText x = Decimal.floatText y) : Same (.float x) (.float y)
  | bool (value : Bool) : Same (.bool value) (.bool value)
  | str (value : String) : Same (.str value) (.str value)
  | none : Same .none .none
  | list {xs ys : List (Arg τ)} (h : List.Forall₂ Same xs ys) : Same (.list xs) (.list ys)

/-- Two invocations are the same, argument by argument and keyword by keyword. -/
structure Invocation.SameAs (a b : Invocation) : Prop where
  expectError : a.expectError = b.expectError
  args : List.Forall₂ Arg.Same a.args b.args
  kwargs : List.Forall₂ (fun x y => x.1 = y.1 ∧ x.2.Same y.2) a.kwargs b.kwargs

namespace Arg

section Nested

variable {τ : Type}

mutual

/-- What holds of every argument that is no list, and of a list if it holds of its items, holds of
every argument. -/
theorem nested_induction {motive : Arg τ → Prop} (flat : ∀ a, (∀ items, a ≠ .list items) → motive a)
    (list : ∀ items, (∀ item ∈ items, motive item) → motive (.list items)) : ∀ a, motive a
  | .tensor _ => flat _ nofun
  | .int _ => flat _ nofun
  | .float _ => flat _ nofun
  | .bool _ => flat _ nofun
  | .str _ => flat _ nofun
  | .none => flat _ nofun
  | .list items => list items (nested_induction_items flat list items)

theorem nested_induction_items {motive : Arg τ → Prop}
    (flat : ∀ a, (∀ items, a ≠ .list items) → motive a)
    (list : ∀ items, (∀ item ∈ items, motive item) → motive (.list items)) :
    ∀ items : List (Arg τ), ∀ item ∈ items, motive item
  | [] => List.forall_mem_nil _
  | item :: items =>
    List.forall_mem_cons.mpr
      ⟨nested_induction flat list item, nested_induction_items flat list items⟩

end

theorem Same.refl (a : Arg τ) : a.Same a := by
  induction a using nested_induction with
  | flat a hflat =>
    cases a with
    | tensor value => exact .tensor value
    | int value => exact .int value
    | float value => exact .float rfl
    | bool value => exact .bool value
    | str value => exact .str value
    | none => exact .none
    | list items => exact absurd rfl (hflat items)
  | list items ih => exact .list (List.forall₂_same.mpr ih)

/-- The same arguments are written alike. -/
theorem Same.text {say : τ → String} {a b : Arg τ} (h : a.Same b) : a.text say = b.text say := by
  induction a using nested_induction generalizing b with
  | flat a hflat =>
    cases h with
    | float hsame => exact hsame
    | list hitems => exact absurd rfl (hflat _)
    | _ => rfl
  | list xs ih =>
    cases h with
    | list hitems =>
      unfold Arg.text
      rw [itemTexts_eq_map, itemTexts_eq_map]
      congr 1
      induction hitems with
      | nil => rfl
      | cons hitem _ ihrest =>
        rw [List.forall_mem_cons] at ih
        rw [List.map_cons, List.map_cons, ih.1 hitem, ihrest ih.2]

end Nested

end Arg

theorem Invocation.SameAs.text {a b : Invocation} (h : a.SameAs b) : a.text = b.text := by
  have hargs : a.args.map (Arg.text Placeholder.text) = b.args.map (Arg.text Placeholder.text) := by
    rw [map_eq_map_iff_forall₂]
    exact h.args.imp fun _ _ hsame => hsame.text
  have hkwargs :
      a.kwargs.map (fun keyword => keyword.1 ++ "=" ++ keyword.2.text Placeholder.text) =
        b.kwargs.map fun keyword => keyword.1 ++ "=" ++ keyword.2.text Placeholder.text := by
    rw [map_eq_map_iff_forall₂]
    refine h.kwargs.imp fun _ _ hsame => ?_
    rw [hsame.1, hsame.2.text]
  unfold Invocation.text
  rw [h.expectError, hargs, hkwargs]

/-! ## Words and the marks behind them -/

/-- A character of the word that an item starts with. -/
def isLeadChar (c : Char) : Bool :=
  isWordChar c || c == '_'

/-- The mark behind the word of an item, if there is more than the word. -/
def isMark (c : Char) : Prop :=
  c = '"' ∨ c = '[' ∨ c = '='

/-- The character behind an item. -/
def endsItem (c : Char) : Prop :=
  c = ',' ∨ c = ')' ∨ c = ']'

theorem endsItem_round : endsItem ')' := .inr (.inl rfl)

theorem endsItem_square : endsItem ']' := .inr (.inr rfl)

theorem isLeadChar_of_isIdentifierChar {c : Char} (h : OpName.isIdentifierChar c = true) :
    isLeadChar c = true := by
  unfold OpName.isIdentifierChar at h
  unfold isLeadChar isWordChar
  simp only [Bool.or_eq_true] at h ⊢
  rcases h with h | h
  · exact .inl (.inl (.inl h))
  · exact .inr h

theorem not_isLeadChar {c : Char} (h : isMark c ∨ endsItem c) : isLeadChar c = false := by
  rcases h with (rfl | rfl | rfl) | rfl | rfl | rfl <;> decide

theorem isMark.not_endsItem {c : Char} (h : isMark c) : ¬ endsItem c := by
  unfold endsItem
  rcases h with rfl | rfl | rfl <;> decide

/-- An item of the word `lead`, behind which `trail` stands. -/
structure Parts (lead trail : List Char) : Prop where
  lead : ∀ c ∈ lead, isLeadChar c = true
  mark : ∀ c ∈ trail.head?, isMark c

/-- Behind the word of an item stands its mark, or what stands behind the item. -/
theorem Parts.exists_head {x t r : List Char} (h : Parts x t) (hr : ∃ c ∈ r.head?, endsItem c) :
    ∃ c, (t ++ r).head? = some c ∧
      (isMark c ∧ t.head? = some c ∨ endsItem c ∧ t.head? = none) := by
  obtain ⟨c, hc, hends⟩ := hr
  rw [List.head?_append]
  cases ht : t.head? with
  | none => exact ⟨c, hc, .inr ⟨hends, rfl⟩⟩
  | some m => exact ⟨m, rfl, .inl ⟨h.mark m ht, rfl⟩⟩

/-- **Items that are written alike start with the same word, and have the same mark behind it.** -/
theorem Parts.append_inj {x y t u r s : List Char} (hx : Parts x t) (hy : Parts y u)
    (hr : ∃ c ∈ r.head?, endsItem c) (hs : ∃ c ∈ s.head?, endsItem c)
    (h : x ++ t ++ r = y ++ u ++ s) : x = y ∧ t.head? = u.head? ∧ t ++ r = u ++ s := by
  obtain ⟨c, hc, hmark⟩ := hx.exists_head hr
  obtain ⟨d, hd, hmark'⟩ := hy.exists_head hs
  have hlead : ∀ {z v : List Char}, Parts z v → ∀ e ∈ z, ¬ isLeadChar e = false := by
    intro z v hz e he
    simp [hz.lead e he]
  have hstop := not_isLeadChar (hmark.imp And.left And.left)
  have hstop' := not_isLeadChar (hmark'.imp And.left And.left)
  rw [List.append_assoc, List.append_assoc] at h
  obtain ⟨hword, hrest⟩ := append_inj_of_stop (hlead hx) (hlead hy) (by simp [hc, hstop])
    (by simp [hd, hstop']) h
  refine ⟨hword, ?_, hrest⟩
  obtain rfl : c = d := Option.some.inj (hc.symm.trans (hrest ▸ hd))
  rcases hmark with ⟨hm, ht⟩ | ⟨he, ht⟩
  · rcases hmark' with ⟨-, hu⟩ | ⟨he', -⟩
    · rw [ht, hu]
    · exact absurd he' hm.not_endsItem
  · rcases hmark' with ⟨hm', -⟩ | ⟨-, hu⟩
    · exact absurd he hm'.not_endsItem
    · rw [ht, hu]

/-- An item is not taken for the end of a list: it starts with its word or with a mark. -/
theorem Parts.append_ne_end {x t : List Char} (hx : Parts x t) (hne : x ++ t ≠ []) {close : Char}
    (hclose : endsItem close) (r s : List Char) : x ++ t ++ r ≠ close :: s := by
  intro h
  cases x with
  | cons c x =>
    obtain rfl : c = close := (List.cons.inj h).1
    exact absurd (hx.lead c List.mem_cons_self) (by simp [not_isLeadChar (.inr hclose)])
  | nil =>
    cases t with
    | nil => exact hne rfl
    | cons c t =>
      obtain rfl : c = close := (List.cons.inj h).1
      exact (hx.mark c rfl).not_endsItem hclose

theorem endsItem_of_goesOn {close : Char} (hclose : endsItem close) {rest : List Char}
    (h : GoesOn close rest) : ∃ c ∈ rest.head?, endsItem c := by
  obtain ⟨c, tail, rfl, hc⟩ := h
  refine ⟨c, rfl, ?_⟩
  rcases hc with rfl | rfl
  · exact .inl rfl
  · exact hclose

/-! ## Arguments -/

theorem Placeholder.kindText_inj {a b : ElementKind} (h : kindText a = kindText b) : a = b := by
  cases a <;> cases b <;> first | rfl | exact absurd h (by decide)

theorem Placeholder.kindText_ne_nil (kind : ElementKind) : (kindText kind).toList ≠ [] := by
  cases kind <;> decide

/-- The sizes of a tensor are written as a list of integers is. -/
theorem sizesText_eq (sizes : Sizes) :
    sizesText sizes = (Default.intList (sizes.map Int.ofNat)).text := by
  show Text.bracketed _ = Text.bracketed _
  rw [List.map_map]
  rfl

theorem sizesText_append_inj {xs ys : Sizes} {r s : List Char}
    (h : (sizesText xs).toList ++ r = (sizesText ys).toList ++ s) : xs = ys ∧ r = s := by
  rw [sizesText_eq, sizesText_eq] at h
  obtain ⟨hsizes, hrest⟩ := Default.intList_append_inj h
  exact ⟨(List.map_injective_iff.mpr fun _ _ => Int.ofNat.inj) hsizes, hrest⟩

theorem head?_sizesText (sizes : Sizes) : (sizesText sizes).toList.head? = some '[' := by
  rw [sizesText, Text.toList_bracketed]
  rfl

namespace Arg

/-- What is between the brackets of a list. -/
def itemChars (items : List (Arg Placeholder)) : List Char :=
  (Text.joined ", " (items.map (text Placeholder.text))).toList

/-- **`Written a lead trail`** — the argument is a word, a description of a tensor, a text or a list;
it starts with the word `lead`, and `trail` is what stands between quotes or brackets behind it. -/
inductive Written : Arg Placeholder → List Char → List Char → Prop
  | word (value : Default) (h : value.isWord = true) : Written value.toArg value.text.toList []
  | tensor (sizes : Sizes) (kind : ElementKind) :
      Written (.tensor { sizes, kind }) (Placeholder.kindText kind).toList (sizesText sizes).toList
  | str (value : String) : Written (.str value) [] (Text.quotedChars value.toList)
  | list (items : List (Arg Placeholder)) :
      Written (.list items) [] ('[' :: (itemChars items ++ [']']))

theorem exists_written (a : Arg Placeholder) :
    ∃ lead trail, Written a lead trail ∧ (a.text Placeholder.text).toList = lead ++ trail := by
  cases a with
  | tensor value => exact ⟨_, _, .tensor value.sizes value.kind, String.toList_append⟩
  | str value => exact ⟨_, _, .str value, Text.toList_quoted value⟩
  | list items =>
    refine ⟨_, _, .list items, ?_⟩
    rw [text, itemTexts_eq_map, Text.toList_bracketed]
    rfl
  | int value => exact ⟨_, _, .word (.int value) rfl, (List.append_nil _).symm⟩
  | float value => exact ⟨_, _, .word (.float value) rfl, (List.append_nil _).symm⟩
  | bool value => exact ⟨_, _, .word (.bool value) rfl, (List.append_nil _).symm⟩
  | none => exact ⟨_, _, .word .none rfl, (List.append_nil _).symm⟩

namespace Written

variable {a : Arg Placeholder} {lead trail : List Char}

theorem parts (h : Written a lead trail) : Parts lead trail := by
  have hempty : ∀ c ∈ ([] : List Char), isLeadChar c = true := List.forall_mem_nil _
  cases h with
  | word value hword =>
    refine ⟨fun c hc => ?_, nofun⟩
    rw [isLeadChar, (Default.text_word hword).2 c hc, Bool.true_or]
  | tensor sizes kind =>
    refine ⟨by cases kind <;> decide, ?_⟩
    rw [head?_sizesText]
    exact fun c hc => .inr (.inl (Option.some.inj hc).symm)
  | str value => exact ⟨hempty, fun c hc => .inl (Option.some.inj hc).symm⟩
  | list items => exact ⟨hempty, fun c hc => .inr (.inl (Option.some.inj hc).symm)⟩

theorem ne_nil (h : Written a lead trail) : lead ++ trail ≠ [] := by
  cases h with
  | word value hword => exact List.append_ne_nil_of_left_ne_nil (Default.text_word hword).1 _
  | tensor sizes kind => exact List.append_ne_nil_of_left_ne_nil (Placeholder.kindText_ne_nil kind) _
  | str value => exact List.cons_ne_nil _ _
  | list items => exact List.cons_ne_nil _ _

/-- Nothing that stands behind the word of an argument is taken for what follows a name. -/
theorem head?_ne_equals (h : Written a lead trail) : trail.head? ≠ some '=' := by
  cases h with
  | word value hword => simp
  | tensor sizes kind => simp [head?_sizesText]
  | str value => simp [Text.quotedChars]
  | list items => simp

end Written

theorem text_append_ne_end (a : Arg Placeholder) {close : Char} (hclose : endsItem close)
    (r s : List Char) : (a.text Placeholder.text).toList ++ r ≠ close :: s := by
  obtain ⟨lead, trail, ha, htext⟩ := exists_written a
  rw [htext]
  exact ha.parts.append_ne_end ha.ne_nil hclose r s

theorem same_toArg {a b : Default} (h : a.SameAs b) : (a.toArg : Arg Placeholder).Same b.toArg := by
  unfold Default.SameAs at h
  split at h
  · exact .float h
  · exact h ▸ .refl _

/-- **A list ends at its own bracket**, if its items are told from those of any other list. -/
theorem itemChars_append_inj {xs ys : List (Arg Placeholder)} {r s : List Char}
    (hitems : ∀ x ∈ xs, ∀ y ∈ ys,
      Tells ']' (x.text Placeholder.text).toList (y.text Placeholder.text).toList (x.Same y))
    (h : '[' :: (itemChars xs ++ [']']) ++ r = '[' :: (itemChars ys ++ [']']) ++ s) :
    (Arg.list xs).Same (.list ys) ∧ r = s := by
  simp only [List.cons_append, List.append_assoc, List.nil_append, List.cons.injEq, true_and] at h
  obtain ⟨hsame, hrest⟩ := joined_tells (by decide) hitems
    (fun x _ t => x.text_append_ne_end endsItem_square t s)
    (fun y _ t => y.text_append_ne_end endsItem_square t r) h
  exact ⟨.list hsame, hrest⟩

/-- **An argument is told from every other one**, if the items of lists are. -/
theorem tells_of_items {close : Char} (hclose : endsItem close) {a b : Arg Placeholder}
    (hitems : ∀ xs ys, a = .list xs → b = .list ys → ∀ x ∈ xs, ∀ y ∈ ys,
      Tells ']' (x.text Placeholder.text).toList (y.text Placeholder.text).toList (x.Same y)) :
    Tells close (a.text Placeholder.text).toList (b.text Placeholder.text).toList (a.Same b) := by
  intro r s hr hs h
  obtain ⟨lead, trail, ha, htext⟩ := exists_written a
  obtain ⟨lead', trail', hb, htext'⟩ := exists_written b
  rw [htext, htext'] at h
  obtain ⟨hlead, hmark, hrest⟩ := ha.parts.append_inj hb.parts (endsItem_of_goesOn hclose hr)
    (endsItem_of_goesOn hclose hs) h
  -- Other words or other marks behind them tell arguments of two kinds.
  cases ha with
  | word value hword =>
    cases hb with
    | word value' hword' =>
      have hsame := Default.sameAs_of_word hword hword' (String.toList_inj.mp hlead)
      exact ⟨same_toArg hsame, hrest⟩
    | tensor sizes kind => simp [head?_sizesText] at hmark
    | str value => simp [Text.quotedChars] at hmark
    | list ys => simp at hmark
  | tensor sizes kind =>
    cases hb with
    | tensor sizes' kind' =>
      obtain rfl := Placeholder.kindText_inj (String.toList_inj.mp hlead)
      obtain ⟨rfl, hend⟩ := sizesText_append_inj hrest
      exact ⟨.tensor _, hend⟩
    | word value hword => simp [head?_sizesText] at hmark
    | str value => simp [head?_sizesText, Text.quotedChars] at hmark
    | list ys => exact absurd hlead (Placeholder.kindText_ne_nil kind)
  | str value =>
    cases hb with
    | str value' =>
      obtain ⟨heq, hend⟩ := Text.quotedChars_append_inj hrest
      obtain rfl := String.toList_inj.mp heq
      exact ⟨.str _, hend⟩
    | word value hword => simp [Text.quotedChars] at hmark
    | tensor sizes kind => simp [head?_sizesText, Text.quotedChars] at hmark
    | list ys => simp [Text.quotedChars] at hmark
  | list xs =>
    cases hb with
    | list ys => exact itemChars_append_inj (hitems xs ys rfl rfl) hrest
    | word value hword => simp at hmark
    | tensor sizes kind => exact absurd hlead.symm (Placeholder.kindText_ne_nil kind)
    | str value => simp [Text.quotedChars] at hmark

/-- **An argument is told from every other one.** -/
theorem text_tells (a b : Arg Placeholder) {close : Char} (hclose : endsItem close) :
    Tells close (a.text Placeholder.text).toList (b.text Placeholder.text).toList (a.Same b) := by
  induction a using nested_induction generalizing b close with
  | flat a hflat => exact tells_of_items hclose fun xs _ heq => absurd heq (hflat xs)
  | list items ih =>
    refine tells_of_items hclose fun xs ys heq _ x hx y _ => ?_
    obtain rfl : items = xs := Arg.list.inj heq
    exact ih x hx y endsItem_square

end Arg

/-! ## Arguments with and without a name -/

namespace Invocation

/-- An argument of an invocation, with its name if it has one. -/
structure Item where
  name : Option String
  value : Arg Placeholder

/-- The argument and its name as they are written. -/
def Item.text (item : Item) : String :=
  match item.name with
  | none => item.value.text Placeholder.text
  | some name => name ++ "=" ++ item.value.text Placeholder.text

/-- All arguments of an invocation in their order. -/
def items (invocation : Invocation) : List Item :=
  invocation.args.map (fun value => { name := none, value }) ++
    invocation.kwargs.map fun keyword => { name := some keyword.1, value := keyword.2 }

/-- Two items are the same: the same argument, under the same name or without one. -/
structure Item.SameAs (a b : Item) : Prop where
  name : a.name = b.name
  value : a.value.Same b.value

namespace Item

/-- The name of an item is an identifier, if there is one. -/
def WellNamed (item : Item) : Prop :=
  ∀ name ∈ item.name, OpName.isIdentifier name.toList = true

theorem toList_named (name : String) (value : Arg Placeholder) :
    (text { name := some name, value }).toList =
      name.toList ++ '=' :: (value.text Placeholder.text).toList := by
  simp [text]

theorem parts_named {name : String} (hname : OpName.isIdentifier name.toList = true)
    (rest : List Char) : Parts name.toList ('=' :: rest) where
  lead _ hc := isLeadChar_of_isIdentifierChar (Text.isIdentifierChar_of_mem hname hc)
  mark _ hc := .inr (.inr (Option.some.inj hc).symm)

/-- An argument is not taken for one with a name: no equals sign stands behind its word. -/
theorem unnamed_append_ne_named {name : String} (hname : OpName.isIdentifier name.toList = true)
    (value value' : Arg Placeholder) {r s : List Char} (hr : GoesOn ')' r) (hs : GoesOn ')' s) :
    (text { name := none, value }).toList ++ r ≠
      (text { name := some name, value := value' }).toList ++ s := by
  intro h
  obtain ⟨lead, trail, hwritten, htext⟩ := Arg.exists_written value
  rw [toList_named, show text { name := none, value } = value.text Placeholder.text from rfl,
    htext] at h
  obtain ⟨-, hmark, -⟩ := hwritten.parts.append_inj (parts_named hname _)
    (endsItem_of_goesOn endsItem_round hr) (endsItem_of_goesOn endsItem_round hs) h
  exact hwritten.head?_ne_equals hmark

/-- **An item is told from every other one**, if names are identifiers. -/
theorem text_tells {a b : Item} (ha : a.WellNamed) (hb : b.WellNamed) :
    Tells ')' a.text.toList b.text.toList (a.SameAs b) := by
  obtain ⟨name, value⟩ := a
  obtain ⟨name', value'⟩ := b
  intro r s hr hs h
  cases name with
  | none =>
    cases name' with
    | none =>
      obtain ⟨hsame, hrest⟩ := Arg.text_tells value value' endsItem_round r s hr hs h
      exact ⟨⟨rfl, hsame⟩, hrest⟩
    | some name' => exact absurd h (unnamed_append_ne_named (hb name' rfl) value value' hr hs)
  | some name =>
    cases name' with
    | none => exact absurd h.symm (unnamed_append_ne_named (ha name rfl) value' value hs hr)
    | some name' =>
      rw [toList_named, toList_named] at h
      obtain ⟨hname, -, hbehind⟩ := (parts_named (ha name rfl) _).append_inj
        (parts_named (hb name' rfl) _) (endsItem_of_goesOn endsItem_round hr)
        (endsItem_of_goesOn endsItem_round hs) h
      obtain ⟨hsame, hrest⟩ := Arg.text_tells value value' endsItem_round r s hr hs
        (List.cons.inj hbehind).2
      exact ⟨⟨congrArg some (String.toList_inj.mp hname), hsame⟩, hrest⟩

theorem text_append_ne_end {a : Item} (ha : a.WellNamed) (r s : List Char) :
    a.text.toList ++ r ≠ ')' :: s := by
  obtain ⟨name, value⟩ := a
  cases name with
  | none => exact value.text_append_ne_end endsItem_round r s
  | some name =>
    rw [toList_named]
    exact (parts_named (ha name rfl) _).append_ne_end (by simp) endsItem_round r s

end Item

/-! ## Whole invocations -/

/-- The argument, if it is given by position. -/
def Item.positional? (item : Item) : Option (Arg Placeholder) :=
  match item.name with
  | none => some item.value
  | some _ => none

/-- The argument and its name, if it is given by name. -/
def Item.keyword? (item : Item) : Option (String × Arg Placeholder) :=
  item.name.map fun name => (name, item.value)

theorem filterMap_positional? (invocation : Invocation) :
    invocation.items.filterMap Item.positional? = invocation.args := by
  simp [items, Item.positional?, Function.comp_def]

theorem filterMap_keyword? (invocation : Invocation) :
    invocation.items.filterMap Item.keyword? = invocation.kwargs := by
  simp [items, Item.keyword?, Function.comp_def]

theorem same_args {a b : Invocation} (h : List.Forall₂ Item.SameAs a.items b.items) :
    List.Forall₂ Arg.Same a.args b.args := by
  rw [← filterMap_positional? a, ← filterMap_positional? b]
  refine List.rel_filterMap (fun x y hsame => ?_) h
  unfold Item.positional?
  rw [hsame.name]
  cases y.name with
  | none => exact .some hsame.value
  | some name => exact .none

theorem same_kwargs {a b : Invocation} (h : List.Forall₂ Item.SameAs a.items b.items) :
    List.Forall₂ (fun x y => x.1 = y.1 ∧ x.2.Same y.2) a.kwargs b.kwargs := by
  rw [← filterMap_keyword? a, ← filterMap_keyword? b]
  refine List.rel_filterMap (fun x y hsame => ?_) h
  unfold Item.keyword?
  rw [hsame.name]
  cases y.name with
  | none => exact .none
  | some name => exact .some ⟨rfl, hsame.value⟩

theorem text_eq (invocation : Invocation) :
    invocation.text = (if invocation.expectError then "ErrorInvocation(" else "Invocation(") ++
      Text.joined ", " (invocation.items.map Item.text) ++ ")" := by
  unfold items
  rw [List.map_append, List.map_map, List.map_map]
  rfl

theorem expectError_of_text {a b : Invocation} (h : a.text = b.text) :
    a.expectError = b.expectError := by
  have hhead := congrArg (fun text => (String.toList text).head?) h
  rw [text_eq, text_eq] at hhead
  cases ha : a.expectError <;> cases hb : b.expectError <;> simp [ha, hb] at hhead ⊢

theorem wellNamed_items {a : Invocation}
    (ha : ∀ keyword ∈ a.kwargs, OpName.isIdentifier keyword.1.toList = true) :
    ∀ item ∈ a.items, item.WellNamed := by
  unfold items
  rw [List.forall_mem_append, List.forall_mem_map, List.forall_mem_map]
  exact ⟨fun _ _ => nofun, fun keyword hmem name hname => Option.some.inj hname ▸ ha keyword hmem⟩

/-- **Invocations are written alike exactly if they are the same**, where keywords are identifiers:
both are meant to fail or both to succeed, the same arguments are given by position, and the same
ones by the same names in the same order. -/
theorem identified_by_text {a b : Invocation}
    (ha : ∀ keyword ∈ a.kwargs, OpName.isIdentifier keyword.1.toList = true)
    (hb : ∀ keyword ∈ b.kwargs, OpName.isIdentifier keyword.1.toList = true) :
    a.text = b.text ↔ a.SameAs b := by
  refine ⟨fun h => ?_, SameAs.text⟩
  have hflag := expectError_of_text h
  have hchars := congrArg String.toList h
  rw [text_eq, text_eq, hflag] at hchars
  simp only [String.toList_append, List.append_assoc, List.append_cancel_left_eq] at hchars
  have hxs := wellNamed_items ha
  have hys := wellNamed_items hb
  obtain ⟨hitems, -⟩ := joined_tells (by decide)
    (fun x hx y hy => Item.text_tells (hxs x hx) (hys y hy))
    (fun x hx t => Item.text_append_ne_end (hxs x hx) t [])
    (fun y hy t => Item.text_append_ne_end (hys y hy) t []) hchars
  exact ⟨hflag, same_args hitems, same_kwargs hitems⟩

/-- Items of a list inside a list are not taken for items of the list around it. -/
theorem identified_by_text_nested :
    (ok [.list [.list [.int 1], .int 2]] [("dim", .none)]).text ≠
      (ok [.list [.list [.int 1, .int 2]]] [("dim", .none)]).text := by
  intro h
  obtain ⟨-, hargs, -⟩ := (identified_by_text (by decide) (by decide)).mp h
  obtain ⟨hsame, -⟩ := List.forall₂_cons.mp hargs
  cases hsame with
  | list hitems => exact nomatch (List.forall₂_cons.mp hitems).2

end Invocation

end OpShape
