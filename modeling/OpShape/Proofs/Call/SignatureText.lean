/-
# `OpShape.Proofs.Call.SignatureText` — a signature can be read off its text.

The text of a signature holds no lengths and marks nothing as a name: names, kinds, defaults and
results are written one behind the other.  Still no two different signatures are written alike, if
no name holds a space.  A name ends at the first space, a kind at the first space, comma or bracket;
a default is a word, a text between quotes or a list of integers, and each of these shows by its
first character which one it is and where it ends.

Floats are told by their text, so that *the same* means: written alike where two floats are
compared, and equal otherwise.
-/
import OpShape.Call.Signature
import OpShape.Proofs.Decimal.Text
import OpShape.Proofs.Outcome
import OpShape.Proofs.Text.Quoted

namespace OpShape

open Text (Tells GoesOn append_inj_of_stop joined_tells)

/-! ## The same signature -/

/-- Two defaults are the same: floats that are written alike, or equal defaults. -/
def Default.SameAs : Default → Default → Prop
  | .float x, .float y => Decimal.floatText x = Decimal.floatText y
  | a, b => a = b

/-- Two parameters are the same. -/
structure Param.SameAs (a b : Param) : Prop where
  name : a.name = b.name
  type : a.type = b.type
  default : Option.Rel Default.SameAs a.default b.default

/-- Two signatures are the same, parameter by parameter. -/
structure Signature.SameAs (a b : Signature) : Prop where
  params : List.Forall₂ Param.SameAs a.params b.params
  returns : a.returns = b.returns

theorem Default.SameAs.text {a b : Default} (h : a.SameAs b) : a.text = b.text := by
  unfold SameAs at h
  split at h
  · exact h
  · rw [h]

theorem Param.SameAs.text {a b : Param} (h : a.SameAs b) : a.text = b.text := by
  obtain ⟨name, type, default⟩ := a
  obtain ⟨name', type', default'⟩ := b
  obtain ⟨rfl, rfl, hdefault⟩ := h
  cases hdefault with
  | none => rfl
  | some hsame =>
    unfold Param.text
    dsimp only
    rw [hsame.text]

theorem Signature.SameAs.text {a b : Signature} (h : a.SameAs b) : a.text = b.text := by
  have hparams : a.params.map Param.text = b.params.map Param.text := by
    rw [map_eq_map_iff_forall₂]
    exact h.params.imp fun _ _ hsame => hsame.text
  unfold Signature.text
  rw [hparams, h.returns]

/-! ## Words -/

/-- The default is written as a single word: it is neither a text nor a list. -/
def Default.isWord : Default → Bool
  | .str _ => false
  | .intList _ => false
  | _ => true

/-- A character of a word. -/
def isWordChar (c : Char) : Bool :=
  c.isAlphanum || c == '-' || c == '.'

theorem isWordChar_of_isFloatChar {c : Char} (h : Decimal.isFloatChar c = true) :
    isWordChar c = true := by
  unfold Decimal.isFloatChar Decimal.isIntChar at h
  unfold isWordChar Char.isAlphanum
  simp only [Bool.or_eq_true, List.contains_iff_mem, beq_iff_eq] at h ⊢
  rcases h with (hdigit | hminus) | hmark
  · exact .inl (.inl (.inr hdigit))
  · exact .inl (.inr hminus)
  · have hall : ∀ c ∈ ['.', 'e', 'N', 'a', 'i', 'n', 'f'], (c.isAlpha = true ∨ c.isDigit = true) ∨
        c = '-' ∨ c = '.' := by decide
    rcases hall c hmark with halpha | rfl | rfl
    · exact .inl (.inl halpha)
    · exact .inl (.inr rfl)
    · exact .inr rfl

/-- The words that are no numbers each have a letter that no number has. -/
theorem word_ne_number {word text : String} (hword : word ∈ ["None", "true", "false"])
    (htext : ∀ c ∈ text.toList, Decimal.isFloatChar c = true) : word ≠ text := by
  have hletter : ∀ word ∈ ["None", "true", "false"],
      ∃ c ∈ word.toList, Decimal.isFloatChar c = false := by decide
  rintro rfl
  obtain ⟨c, hc, hfalse⟩ := hletter word hword
  rw [htext c hc] at hfalse
  cases hfalse

theorem int_ne_float (i : Int) (x : Float) : Decimal.intText i ≠ Decimal.floatText x := by
  intro h
  obtain ⟨c, hc, hmark⟩ := (Decimal.writesFloat_floatText x).mark
  rw [← h] at hc
  rw [Decimal.isIntChar_of_mem_intText hc] at hmark
  cases hmark

theorem isFloatChar_intText (i : Int) :
    ∀ c ∈ (Decimal.intText i).toList, Decimal.isFloatChar c = true := by
  intro c hc
  unfold Decimal.isFloatChar
  rw [Decimal.isIntChar_of_mem_intText hc, Bool.true_or]

theorem mem_words_boolText (b : Bool) : Arg.boolText b ∈ ["None", "true", "false"] := by
  cases b <;> decide

theorem boolText_inj {a b : Bool} (h : Arg.boolText a = Arg.boolText b) : a = b := by
  cases a <;> cases b <;> first | rfl | exact absurd h (by decide)

namespace Default

/-- A word is not empty and has characters of words only. -/
theorem text_word {a : Default} (h : a.isWord = true) :
    a.text.toList ≠ [] ∧ ∀ c ∈ a.text.toList, isWordChar c = true := by
  cases a with
  | none => decide
  | int i =>
    exact ⟨Decimal.intText_ne_nil i,
      fun c hc => isWordChar_of_isFloatChar (isFloatChar_intText i c hc)⟩
  | float x =>
    have hfloat := Decimal.writesFloat_floatText x
    obtain ⟨c, hc, -⟩ := hfloat.mark
    exact ⟨List.ne_nil_of_mem hc, fun c hc => isWordChar_of_isFloatChar (hfloat.chars c hc)⟩
  | bool b => cases b <;> decide
  | str s => cases h
  | intList values => cases h

/-- **Words that are written alike are the same default.** -/
theorem sameAs_of_word {a b : Default} (ha : a.isWord = true) (hb : b.isWord = true)
    (h : a.text = b.text) : a.SameAs b := by
  have hnone : "None" ∈ ["None", "true", "false"] := by decide
  have hfloat := fun x => (Decimal.writesFloat_floatText x).chars
  cases a with
  | none =>
    cases b with
    | none => rfl
    | int j => exact absurd h (word_ne_number hnone (isFloatChar_intText j))
    | float y => exact absurd h (word_ne_number hnone (hfloat y))
    | bool b => cases b <;> exact absurd h (by decide)
    | str s => cases hb
    | intList values => cases hb
  | int i =>
    cases b with
    | none => exact absurd h.symm (word_ne_number hnone (isFloatChar_intText i))
    | int j => exact congrArg int (Decimal.intText_inj (congrArg String.toList h))
    | float y => exact absurd h (int_ne_float i y)
    | bool b => exact absurd h.symm (word_ne_number (mem_words_boolText b) (isFloatChar_intText i))
    | str s => cases hb
    | intList values => cases hb
  | float x =>
    cases b with
    | none => exact absurd h.symm (word_ne_number hnone (hfloat x))
    | int j => exact absurd h.symm (int_ne_float j x)
    | float y => exact h
    | bool b => exact absurd h.symm (word_ne_number (mem_words_boolText b) (hfloat x))
    | str s => cases hb
    | intList values => cases hb
  | bool a =>
    cases b with
    | none => cases a <;> exact absurd h (by decide)
    | int j => exact absurd h (word_ne_number (mem_words_boolText a) (isFloatChar_intText j))
    | float y => exact absurd h (word_ne_number (mem_words_boolText a) (hfloat y))
    | bool b => exact congrArg bool (boolText_inj h)
    | str s => cases hb
    | intList values => cases hb
  | str s => cases ha
  | intList values => cases ha

/-! ## Defaults -/

/-- What stands behind an item starts with no character of a word. -/
theorem stop_of_goesOn {rest : List Char} (h : GoesOn ')' rest) :
    ∀ c ∈ rest.head?, ¬ isWordChar c = true := by
  intro c hc
  rcases h.head c hc with rfl | rfl <;> decide

theorem text_str (s : String) :
    (str s).text.toList = '"' :: s.toList.flatMap Text.escaped ++ ['"'] :=
  Text.toList_quoted s

theorem text_intList (values : List Int) :
    (intList values).text.toList =
      '[' :: ((Text.joined ", " (values.map Decimal.intText)).toList ++ [']']) :=
  Text.toList_bracketed _

/-- Integers of a list are told from each other. -/
theorem intText_tells (i j : Int) :
    Tells ']' (Decimal.intText i).toList (Decimal.intText j).toList (i = j) := by
  have hstop : ∀ {rest : List Char}, GoesOn ']' rest →
      ∀ c ∈ rest.head?, ¬ Decimal.isIntChar c = true := by
    intro rest h c hc
    rcases h.head c hc with rfl | rfl <;> decide
  intro r s hr hs h
  obtain ⟨htext, hrest⟩ := append_inj_of_stop
    (fun c hc => not_not_intro (Decimal.isIntChar_of_mem_intText hc))
    (fun c hc => not_not_intro (Decimal.isIntChar_of_mem_intText hc)) (hstop hr) (hstop hs) h
  exact ⟨Decimal.intText_inj htext, hrest⟩

/-- **A list of integers ends at its own bracket**, and no other list is written so. -/
theorem intList_append_inj {xs ys : List Int} {r s : List Char}
    (h : (intList xs).text.toList ++ r = (intList ys).text.toList ++ s) : xs = ys ∧ r = s := by
  have hopen : ∀ (i : Int) (t u : List Char), (Decimal.intText i).toList ++ t ≠ ']' :: u := by
    intro i t u heq
    obtain ⟨c, tail, htext⟩ := List.exists_cons_of_ne_nil (Decimal.intText_ne_nil i)
    rw [htext] at heq
    have hchar := @Decimal.isIntChar_of_mem_intText i c (htext ▸ List.mem_cons_self)
    obtain rfl : c = ']' := (List.cons.inj heq).1
    exact absurd hchar (by decide)
  rw [text_intList, text_intList] at h
  simp only [List.cons_append, List.append_assoc, List.nil_append, List.cons.injEq, true_and] at h
  obtain ⟨hitems, hrest⟩ := joined_tells (by decide) (fun x _ y _ => intText_tells x y)
    (fun x _ t => hopen x t s) (fun y _ t => hopen y t r) h
  exact ⟨List.forall₂_eq_eq_eq ▸ hitems, hrest⟩

/-- What is no word starts with a character that no word has. -/
theorem text_of_not_word {a : Default} (h : a.isWord = false) :
    ∃ c tail, a.text.toList = c :: tail ∧ isWordChar c = false := by
  cases a with
  | str s => exact ⟨_, _, text_str s, by decide⟩
  | intList values => exact ⟨_, _, text_intList values, by decide⟩
  | none => cases h
  | int i => cases h
  | float x => cases h
  | bool b => cases h

/-- So a word is told from what is none. -/
theorem word_append_ne {a b : Default} (ha : a.isWord = true) (hb : b.isWord = false)
    (r s : List Char) : a.text.toList ++ r ≠ b.text.toList ++ s := by
  obtain ⟨hne, hchars⟩ := text_word ha
  obtain ⟨c, tail, htext⟩ := List.exists_cons_of_ne_nil hne
  obtain ⟨d, tail', htext', hd⟩ := text_of_not_word hb
  rw [htext] at hchars ⊢
  rw [htext']
  intro heq
  obtain rfl : c = d := (List.cons.inj heq).1
  rw [hchars c List.mem_cons_self] at hd
  cases hd

/-- Texts and lists are told from each other, and each from its like. -/
theorem sameAs_of_not_word {a b : Default} {r s : List Char} (ha : a.isWord = false)
    (hb : b.isWord = false) (h : a.text.toList ++ r = b.text.toList ++ s) :
    a.SameAs b ∧ r = s := by
  have hcross : ∀ (text : String) (values : List Int) (r s : List Char),
      (str text).text.toList ++ r ≠ (intList values).text.toList ++ s := by
    intro text values r s heq
    rw [text_str, text_intList] at heq
    exact absurd (List.cons.inj heq).1 (by decide)
  cases a with
  | str x =>
    cases b with
    | str y =>
      rw [text_str, text_str] at h
      obtain ⟨heq, hrest⟩ := Text.quotedChars_append_inj h
      exact ⟨congrArg str (String.toList_inj.mp heq), hrest⟩
    | intList ys => exact absurd h (hcross x ys r s)
    | none => cases hb
    | int j => cases hb
    | float y => cases hb
    | bool b => cases hb
  | intList xs =>
    cases b with
    | str y => exact absurd h.symm (hcross y xs s r)
    | intList ys =>
      obtain ⟨heq, hrest⟩ := intList_append_inj h
      exact ⟨congrArg intList heq, hrest⟩
    | none => cases hb
    | int j => cases hb
    | float y => cases hb
    | bool b => cases hb
  | none => cases ha
  | int i => cases ha
  | float x => cases ha
  | bool a => cases ha

/-- **A default is told from every other one.** -/
theorem text_tells (a b : Default) : Tells ')' a.text.toList b.text.toList (a.SameAs b) := by
  intro r s hr hs h
  cases ha : a.isWord with
  | true =>
    cases hb : b.isWord with
    | true =>
      obtain ⟨htext, hrest⟩ := append_inj_of_stop
        (fun c hc => not_not_intro ((text_word ha).2 c hc))
        (fun c hc => not_not_intro ((text_word hb).2 c hc)) (stop_of_goesOn hr)
        (stop_of_goesOn hs) h
      exact ⟨sameAs_of_word ha hb (String.toList_inj.mp htext), hrest⟩
    | false => exact absurd h (word_append_ne ha hb r s)
  | false =>
    cases hb : b.isWord with
    | true => exact absurd h.symm (word_append_ne hb ha s r)
    | false => exact sameAs_of_not_word ha hb h

end Default

/-! ## Kinds -/

theorem ArgType.text_inj {a b : ArgType} (h : a.text = b.text) : a = b := by
  cases a <;> cases b <;> first | rfl | exact absurd h (by decide)

/-- A kind ends at the first space, comma or round bracket. -/
def endsKind (c : Char) : Prop :=
  c = ' ' ∨ c = ',' ∨ c = ')'

instance (c : Char) : Decidable (endsKind c) :=
  inferInstanceAs (Decidable (_ ∨ _))

theorem ArgType.text_chars (a : ArgType) : ∀ c ∈ a.text.toList, ¬ endsKind c := by
  cases a <;> decide

/-! ## Parameters -/

namespace Param

/-- What stands behind the kind of a parameter. -/
def defaultChars : Option Default → List Char
  | none => []
  | some default => [' ', '=', ' '] ++ default.text.toList

/-- The name of a parameter and the colon behind it. -/
def label (a : Param) : List Char :=
  a.name.toList ++ [':']

theorem toList_text (a : Param) :
    a.text.toList = a.label ++ ' ' :: (a.type.text.toList ++ defaultChars a.default) := by
  unfold text label defaultChars
  cases a.default <;> simp

/-- **A default that may be missing is told from every other one.** -/
theorem defaultChars_tells (a b : Option Default) :
    Tells ')' (defaultChars a) (defaultChars b) (Option.Rel Default.SameAs a b) := by
  -- What stands behind an item does not start with a space, as a default does.
  have hspace : ∀ {rest tail : List Char}, GoesOn ')' rest → rest ≠ ' ' :: tail := by
    rintro rest tail ⟨c, tail', rfl, hc⟩ heq
    obtain rfl : c = ' ' := (List.cons.inj heq).1
    rcases hc with hc | hc <;> exact absurd hc (by decide)
  intro r s hr hs h
  cases a with
  | none =>
    cases b with
    | none => exact ⟨.none, h⟩
    | some b => exact absurd h (hspace hr)
  | some a =>
    cases b with
    | none => exact absurd h.symm (hspace hs)
    | some b =>
      simp only [defaultChars, List.append_assoc, List.append_cancel_left_eq] at h
      obtain ⟨hsame, hrest⟩ := Default.text_tells a b r s hr hs h
      exact ⟨.some hsame, hrest⟩

/-- A name without spaces makes a label without spaces. -/
theorem label_chars {a : Param} (ha : ' ' ∉ a.name.toList) : ∀ c ∈ a.label, ¬ c = ' ' := by
  unfold label
  rw [List.forall_mem_append]
  exact ⟨fun c hc heq => ha (heq ▸ hc), by decide⟩

/-- **A parameter is told from every other one**, if their names hold no space. -/
theorem text_tells {a b : Param} (ha : ' ' ∉ a.name.toList) (hb : ' ' ∉ b.name.toList) :
    Tells ')' a.text.toList b.text.toList (a.SameAs b) := by
  have hstop : ∀ {default : Option Default} {rest : List Char}, GoesOn ')' rest →
      ∀ c ∈ (defaultChars default ++ rest).head?, endsKind c := by
    rintro default rest ⟨d, tail, rfl, hd⟩ c hc
    cases default with
    | none =>
      obtain rfl : d = c := Option.some.inj hc
      exact .inr hd
    | some default =>
      obtain rfl : ' ' = c := Option.some.inj hc
      exact .inl rfl
  intro r s hr hs h
  rw [toList_text, toList_text, List.append_assoc, List.append_assoc, List.cons_append,
    List.cons_append] at h
  obtain ⟨hlabel, hbehind⟩ := append_inj_of_stop (label_chars ha) (label_chars hb)
    (by simp) (by simp) h
  unfold label at hlabel
  have hname : a.name = b.name := String.toList_inj.mp (List.append_cancel_right hlabel)
  have hkind := (List.cons.inj hbehind).2
  rw [List.append_assoc, List.append_assoc] at hkind
  obtain ⟨htype, hdefault⟩ := append_inj_of_stop a.type.text_chars b.type.text_chars
    (hstop hr) (hstop hs) hkind
  obtain ⟨hsame, hrest⟩ := defaultChars_tells a.default b.default r s hr hs hdefault
  exact ⟨⟨hname, ArgType.text_inj (String.toList_inj.mp htype), hsame⟩, hrest⟩

/-- A parameter is not taken for the end of the list: a colon stands in front of its first space. -/
theorem text_append_ne_end {a : Param} (ha : ' ' ∉ a.name.toList) (r s : List Char) :
    a.text.toList ++ r ≠ ')' :: ' ' :: s := by
  intro h
  rw [toList_text, List.append_assoc, List.cons_append] at h
  have hclose : ∀ c ∈ [')'], ¬ c = ' ' := by decide
  obtain ⟨hlabel, -⟩ := append_inj_of_stop (y := [')']) (s := ' ' :: s) (label_chars ha) hclose
    (by simp) (by simp) h
  have hlast : a.label.getLast? = some ':' := List.getLast?_concat
  rw [hlabel] at hlast
  exact absurd hlast (by decide)

end Param

/-! ## Signatures -/

namespace Signature

theorem count_joined_shapes :
    ∀ n, (Text.joined ", " (List.replicate n "shape")).toList.count 's' = n
  | 0 => rfl
  | 1 => rfl
  | n + 2 => by
    have ih := count_joined_shapes (n + 1)
    have hshape : "shape".toList.count 's' = 1 ∧ ", ".toList.count 's' = 0 := by decide
    rw [List.replicate_succ, List.replicate_succ, Text.joined, ← List.replicate_succ,
      String.toList_append, String.toList_append, List.count_append, List.count_append, ih,
      hshape.1, hshape.2]
    omega

/-- The number of results can be counted in their text. -/
theorem count_returnsText (n : Nat) : (returnsText n).toList.count 's' = n := by
  unfold returnsText
  by_cases hone : n = 1
  · rw [if_pos hone, hone]
    rfl
  · have hbrackets : "(".toList.count 's' = 0 ∧ ")".toList.count 's' = 0 := by decide
    rw [if_neg hone, String.toList_append, String.toList_append, List.count_append,
      List.count_append, hbrackets.1, hbrackets.2, Nat.zero_add, Nat.add_zero]
    exact count_joined_shapes n

theorem toList_text (a : Signature) :
    a.text.toList =
      '(' :: ((Text.joined ", " (a.params.map Param.text)).toList ++
        ')' :: ' ' :: '-' :: '>' :: ' ' :: (returnsText a.returns).toList) := by
  unfold text
  simp

/-- **Signatures are written alike exactly if they are the same**, where no name holds a space. -/
theorem text_eq_iff {a b : Signature} (ha : ∀ param ∈ a.params, ' ' ∉ param.name.toList)
    (hb : ∀ param ∈ b.params, ' ' ∉ param.name.toList) : a.text = b.text ↔ a.SameAs b := by
  refine ⟨fun h => ?_, SameAs.text⟩
  have hchars := String.toList_inj.mpr h
  rw [toList_text, toList_text] at hchars
  obtain ⟨hparams, hrest⟩ := joined_tells (by decide)
    (fun x hx y hy => Param.text_tells (ha x hx) (hb y hy))
    (fun x hx t => Param.text_append_ne_end (ha x hx) t _)
    (fun y hy t => Param.text_append_ne_end (hb y hy) t _) (List.cons.inj hchars).2
  have hreturns : (returnsText a.returns).toList = (returnsText b.returns).toList := by
    simpa using hrest
  have hcount := congrArg (List.count 's') hreturns
  rw [count_returnsText, count_returnsText] at hcount
  exact ⟨hparams, hcount⟩

end Signature

end OpShape
