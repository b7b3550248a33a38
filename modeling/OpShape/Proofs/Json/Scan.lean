/-
# `OpShape.Proofs.Json.Scan` — the tokens of a printed value.

A value that programs make consists of texts, natural numbers, truth values and nothing else, at any
depth.  Its tokens are said without any text.  A printed value is scanned as its tokens, whatever
has been read before it and whatever follows it, as long as that starts with a sign or a new line:
a number or a word would not end in front of anything else.  What is scanned so may be put together,
and the whole text of a value is put together from the texts of its parts.
-/
import OpShape.Json.Printer
import OpShape.Json.Token
import OpShape.Proofs.Decimal.Literal

namespace OpShape.Json

/-! ## Values and their tokens -/

/-- Parts with commas between them, and with a token in front and one behind. -/
def enclosed (opening closing : Token) (parts : List (List Token)) : List Token :=
  match parts with
  | [] => [opening, closing]
  | first :: rest => opening :: first ++ rest.flatMap (.comma :: ·) ++ [closing]

namespace Value

/-- A value as programs make it: its numbers are natural ones and its strings are texts. -/
inductive Plain : Value → Prop where
  | null : Plain null
  | bool (value : Bool) : Plain (bool value)
  | natural (value : Nat) : Plain (natural value)
  | text (text : String) : Plain (ofText text)
  | array {items : List Value} (hitems : ∀ item ∈ items, Plain item) : Plain (array items)
  | members {members : List (String × Value)} (hmembers : ∀ member ∈ members, Plain member.2) :
      Plain (ofMembers members)

theorem Plain.array_map {α : Type} {write : α → Value} (h : ∀ x, (write x).Plain)
    {xs : List α} : (Value.array (xs.map write)).Plain :=
  .array (List.forall_mem_map.mpr fun x _ => h x)

theorem Plain.ofOption {α : Type} {write : α → Value} (h : ∀ x, (write x).Plain) {x : Option α} :
    (Value.ofOption write x).Plain := by
  cases x with
  | none => exact .null
  | some x => exact h x

mutual

/-- The tokens of a value. -/
def tokens : Value → List Token
  | str content => [.str content]
  | array items => enclosed .openArray .closeArray (itemTokens items)
  | object members => enclosed .openObject .closeObject (memberTokens members)
  | value => [.scalar value]

/-- The tokens of items. -/
def itemTokens : List Value → List (List Token)
  | [] => []
  | item :: items => item.tokens :: itemTokens items

/-- The tokens of members. -/
def memberTokens : List (List Piece × Value) → List (List Token)
  | [] => []
  | (name, value) :: members => (.str name :: .colon :: value.tokens) :: memberTokens members

end

theorem itemTokens_eq (items : List Value) : itemTokens items = items.map tokens := by
  induction items with
  | nil => rfl
  | cons item items ih => rw [itemTokens, ih, List.map_cons]

theorem memberTokens_eq (members : List (List Piece × Value)) :
    memberTokens members =
      members.map fun member => .str member.1 :: .colon :: member.2.tokens := by
  induction members with
  | nil => rfl
  | cons member members ih => rw [memberTokens, ih, List.map_cons]

theorem itemLines_eq (depth : Nat) (items : List Value) :
    itemLines depth items = items.map (chars depth) := by
  induction items with
  | nil => rfl
  | cons item items ih => rw [itemLines, ih, List.map_cons]

theorem memberLines_eq (depth : Nat) (members : List (List Piece × Value)) :
    memberLines depth members =
      members.map fun member => stringChars member.1 ++ [':', ' '] ++ member.2.chars depth := by
  induction members with
  | nil => rfl
  | cons member members ih => rw [memberLines, ih, List.map_cons]

end Value

/-! ## Reading on -/

namespace Scanner

/-- Read a text to its end, after what has been read before. -/
def scan? (scanner : Scanner) (text : List Char) : Option Scanner := do
  (← text.foldlM step? scanner).complete?

@[simp] theorem scan?_nil (scanner : Scanner) : scanner.scan? [] = scanner.complete? := rfl

@[simp] theorem scan?_cons (scanner : Scanner) (c : Char) (text : List Char) :
    scanner.scan? (c :: text) = (scanner.step? c).bind (scan? · text) := by
  rw [scan?, List.foldlM_cons]
  cases scanner.step? c <;> rfl

end Scanner

/-- A text that ends a number or a word in front of it. -/
def Stops (text : List Char) : Prop :=
  ∀ c ∈ text.head?, c = ',' ∨ c = ':' ∨ c = '\n'

@[simp] theorem stops_nil : Stops [] := by
  simp [Stops]

@[simp] theorem stops_cons {c : Char} {text : List Char} :
    Stops (c :: text) ↔ c = ',' ∨ c = ':' ∨ c = '\n' := by
  simp [Stops]

theorem Stops.append {text rest : List Char} (htext : Stops text) (hrest : Stops rest) :
    Stops (text ++ rest) := by
  cases text with
  | nil => exact hrest
  | cons c text => exact htext

/-- The text is read as the tokens, between whatever else. -/
def Scans (text : List Char) (tokens : List Token) : Prop :=
  ∀ before rest, Stops rest →
    Scanner.scan? ⟨before, .between⟩ (text ++ rest) =
      Scanner.scan? ⟨tokens.reverse ++ before, .between⟩ rest

namespace Scans

variable {text text' : List Char} {tokens tokens' : List Token}

theorem nil : Scans [] [] := by
  intro before rest _
  rfl

theorem append (h : Scans text tokens) (hstops : Stops text') (h' : Scans text' tokens') :
    Scans (text ++ text') (tokens ++ tokens') := by
  intro before rest hrest
  rw [List.append_assoc, h _ _ (hstops.append hrest), h' _ _ hrest, List.reverse_append,
    List.append_assoc]

/-- A sign is a token, whatever follows it. -/
theorem cons_sign {c : Char} {token : Token}
    (hc : ∀ scanner : Scanner, scanner.begin? c = some (scanner.push token))
    (h : Scans text tokens) : Scans (c :: text) (token :: tokens) := by
  intro before rest hrest
  rw [List.cons_append, Scanner.scan?_cons, Scanner.step?, hc, Option.bind_some, Scanner.push,
    h _ _ hrest, List.reverse_cons, List.append_assoc, List.singleton_append]

theorem comma (h : Scans text tokens) : Scans (',' :: text) (.comma :: tokens) :=
  cons_sign (fun _ => rfl) h

theorem colon (h : Scans text tokens) : Scans (':' :: text) (.colon :: tokens) :=
  cons_sign (fun _ => rfl) h

/-- What may stand between tokens does not matter. -/
theorem cons_between {c : Char} (hc : isBetween c = true) (h : Scans text tokens) :
    Scans (c :: text) tokens := by
  intro before rest hrest
  rw [List.cons_append, Scanner.scan?_cons, Scanner.step?, Scanner.begin?, if_pos hc,
    Option.bind_some, h _ _ hrest]

theorem after_lineStart (depth : Nat) (h : Scans text tokens) :
    Scans (lineStart depth ++ text) tokens := by
  have hblanks : ∀ n, Scans (List.replicate n ' ' ++ text) tokens := by
    intro n
    induction n with
    | zero => exact h
    | succ n ih => exact cons_between rfl ih
  exact cons_between rfl (hblanks _)

end Scans

/-! ## Words and numbers -/

/-- What is complete in front of a text that stops it might as well have been completed. -/
theorem scan?_of_complete? {scanner complete : Scanner} {rest : List Char}
    (hcomplete : scanner.complete? = some complete) (hmode : complete.mode = .between)
    (hstep : ∀ c ∈ rest.head?, scanner.step? c = complete.begin? c) :
    scanner.scan? rest = complete.scan? rest := by
  cases rest with
  | nil =>
    rw [Scanner.scan?_nil, Scanner.scan?_nil, hcomplete, Scanner.complete?, hmode]
  | cons c rest =>
    rw [Scanner.scan?_cons, Scanner.scan?_cons, hstep c rfl, Scanner.step?, hmode]

theorem scan?_word {letters : List Char} {value : Value}
    (hword : wordValue? letters.reverse = some value) (before : List Token) {rest : List Char}
    (hrest : Stops rest) :
    Scanner.scan? ⟨before, .word letters⟩ rest =
      Scanner.scan? ⟨.scalar value :: before, .between⟩ rest := by
  have hcomplete : Scanner.complete? ⟨before, .word letters⟩ =
      some ⟨.scalar value :: before, .between⟩ := by
    simp only [Scanner.complete?, hword, Option.map_some, Scanner.push]
  refine scan?_of_complete? hcomplete rfl fun c hc => ?_
  have hlower : c.isLower = false := by
    rcases hrest c hc with rfl | rfl | rfl <;> rfl
  rw [Scanner.step?, hlower, hcomplete]
  rfl

theorem scan?_number {part : NumberPart} (hpart : part.isComplete = true) (literal : List Char)
    (before : List Token) {rest : List Char} (hrest : Stops rest) :
    Scanner.scan? ⟨before, .number part literal⟩ rest =
      Scanner.scan? ⟨.scalar (numberValue literal.reverse) :: before, .between⟩ rest := by
  have hcomplete : Scanner.complete? ⟨before, .number part literal⟩ =
      some ⟨.scalar (numberValue literal.reverse) :: before, .between⟩ := by
    simp only [Scanner.complete?, hpart, if_true, Scanner.push]
  refine scan?_of_complete? hcomplete rfl fun c hc => ?_
  have hnext : part.next? c = none := by
    rcases hrest c hc with rfl | rfl | rfl <;> cases part <;> rfl
  simp only [Scanner.step?, hnext, hcomplete]
  rfl

theorem scan?_digits {digits : List Char} (hdigits : ∀ c ∈ digits, c.isDigit = true)
    (before : List Token) (literal rest : List Char) :
    Scanner.scan? ⟨before, .number .whole literal⟩ (digits ++ rest) =
      Scanner.scan? ⟨before, .number .whole (digits.reverse ++ literal)⟩ rest := by
  induction digits generalizing literal with
  | nil => rfl
  | cons c digits ih =>
    obtain ⟨hc, hdigits⟩ := List.forall_mem_cons.mp hdigits
    have hnext : NumberPart.whole.next? c = some .whole := if_pos hc
    rw [List.cons_append, Scanner.scan?_cons, List.reverse_cons, List.append_assoc,
      List.singleton_append, ← ih hdigits]
    simp only [Scanner.step?, hnext, Option.bind_some]

/-- The digits of a number start with a zero only if that is all. -/
theorem toDigits_ten_head {n : Nat} (hn : n ≠ 0) : ∀ c ∈ (Nat.toDigits 10 n).head?, c ≠ '0' := by
  induction n using Nat.strongRecOn with
  | ind n ih =>
    rw [Nat.toDigits_eq_if (by decide)]
    split
    · next hlt =>
      have hall : ∀ d < 10, d ≠ 0 → Nat.digitChar d ≠ '0' := by decide
      simpa using hall n hlt hn
    · next hle =>
      have hfront : Nat.toDigits 10 (n / 10) ≠ [] := Nat.toDigits_ne_nil
      rw [List.head?_append_of_ne_nil _ hfront]
      exact ih (n / 10) (Nat.div_lt_self (by omega) (by decide)) (by omega)

theorem numberValue_natText (n : Nat) :
    numberValue (Decimal.natText n).toList = .natural n := by
  have hread : Decimal.digitsValue? (Decimal.natText n).toList = some n := by
    simpa using (Decimal.Numeral.ofNat n).digitsValue?_digits
  rw [numberValue, hread]

/-- A digit begins a number. -/
theorem begin?_digit {c : Char} (hdigit : c.isDigit = true) (hzero : c ≠ '0')
    (scanner : Scanner) :
    scanner.begin? c = some { scanner with mode := .number .whole [c] } := by
  have hne : ∀ d : Char, d.isDigit = false → c ≠ d := by
    rintro d hd rfl
    rw [hdigit] at hd
    cases hd
  simp [Scanner.begin?, isBetween, hdigit, hzero, hne ' ' rfl, hne '\n' rfl, hne '\t' rfl,
    hne '\r' rfl, hne '"' rfl, hne '-' rfl]

theorem scans_natural (n : Nat) :
    Scans (Decimal.natText n).toList [.scalar (.natural n)] := by
  intro before rest hrest
  by_cases hn : n = 0
  · -- A zero is complete at once.
    subst hn
    exact @scan?_number .zero rfl ['0'] before rest hrest
  · have hvalue := numberValue_natText n
    have hdigits : ∀ c ∈ (Decimal.natText n).toList, c.isDigit = true :=
      fun _ => Decimal.isDigit_of_mem_natText
    have hhead := toDigits_ten_head hn
    rw [← String.toList_ofList (l := Nat.toDigits 10 n), ← Decimal.natText] at hhead
    cases htext : (Decimal.natText n).toList with
    | nil => exact absurd htext (Decimal.natText_ne_nil n)
    | cons c digits =>
      rw [htext] at hvalue hdigits hhead
      obtain ⟨hc, hdigits⟩ := List.forall_mem_cons.mp hdigits
      rw [List.cons_append, Scanner.scan?_cons, Scanner.step?, begin?_digit hc (hhead c rfl),
        Option.bind_some, scan?_digits hdigits, scan?_number rfl _ _ hrest, List.reverse_append,
        List.reverse_reverse, List.reverse_singleton, List.singleton_append, hvalue]
      rfl

theorem scans_null : Scans ['n', 'u', 'l', 'l'] [.scalar .null] :=
  fun before _ hrest => scan?_word rfl before hrest

theorem scans_bool (depth : Nat) (value : Bool) :
    Scans (Value.chars depth (.bool value)) [.scalar (.bool value)] := by
  intro before rest hrest
  cases value with
  | false => exact scan?_word rfl before hrest
  | true => exact scan?_word rfl before hrest

/-! ## Strings -/

/-- The number of a control character in four digits. -/
theorem numbered_eq {n : Nat} (hn : n < 32) :
    numbered n = ['\\', 'u', '0', '0', Nat.digitChar (n / 16), Nat.digitChar (n % 16)] := by
  have hall : ∀ n < 32, numbered n =
      ['\\', 'u', '0', '0', Nat.digitChar (n / 16), Nat.digitChar (n % 16)] := by decide
  exact hall n hn

theorem hexValue?_digitChar {d : Nat} (hd : d < 16) : hexValue? (Nat.digitChar d) = some d := by
  have hall : ∀ d < 16, hexValue? (Nat.digitChar d) = some d := by decide
  exact hall d hd

theorem addNumbered_toNat {c : Char} (hc : c < ' ') (pieces : List Piece) :
    addNumbered c.toNat pieces = .char c :: pieces := by
  have hlt : c.toNat < 32 := hc
  have hfirst : isFirstHalf c.toNat = false := by
    rw [isFirstHalf, decide_eq_false (by omega), Bool.false_and]
  have hsecond : isSecondHalf c.toNat = false := by
    rw [isSecondHalf, decide_eq_false (by omega), Bool.false_and]
  simp [addNumbered, hfirst, hsecond, Char.ofNat_toNat]

/-- **What stands for a character in a string is read as the character.** -/
theorem scan?_escaped (c : Char) (before : List Token) (pieces : List Piece) (rest : List Char) :
    Scanner.scan? ⟨before, .str pieces⟩ (escaped c ++ rest) =
      Scanner.scan? ⟨before, .str (.char c :: pieces)⟩ rest := by
  unfold escaped
  split_ifs with hquote hslash hb hf hn hr ht hcontrol
  · subst hquote; rfl
  · subst hslash; rfl
  · subst hb; rfl
  · subst hf; rfl
  · subst hn; rfl
  · subst hr; rfl
  · subst ht; rfl
  · have hlt : c.toNat < 32 := hcontrol
    have hhigh := hexValue?_digitChar (d := c.toNat / 16) (by omega)
    have hlow := hexValue?_digitChar (d := c.toNat % 16) (Nat.mod_lt _ (by decide))
    have hvalue : c.toNat / 16 * 16 + c.toNat % 16 = c.toNat := Nat.div_add_mod' _ _
    have hzero : hexValue? '0' = some 0 := rfl
    rw [numbered_eq hlt]
    simp [Scanner.step?, hzero, hhigh, hlow, hvalue, addNumbered_toNat hcontrol]
  · simp [Scanner.step?, hquote, hslash, hcontrol]

theorem scan?_content (text : List Char) (before : List Token) (pieces : List Piece)
    (rest : List Char) :
    Scanner.scan? ⟨before, .str pieces⟩ (text.flatMap escaped ++ rest) =
      Scanner.scan? ⟨before, .str ((text.map .char).reverse ++ pieces)⟩ rest := by
  induction text generalizing pieces with
  | nil => rfl
  | cons c text ih =>
    rw [List.flatMap_cons, List.append_assoc, scan?_escaped, ih, List.map_cons, List.reverse_cons,
      List.append_assoc, List.singleton_append]

/-- A text in quotes ends at its own quote, whatever follows it. -/
theorem scans_text (text : String) :
    Scans (stringChars (piecesOf text)) [.str (piecesOf text)] := by
  intro before rest _
  have hcontent : (piecesOf text).flatMap Piece.chars = text.toList.flatMap escaped := by
    rw [piecesOf, List.flatMap_map]
    rfl
  have hclose : ∀ pieces, Scanner.scan? ⟨before, .str pieces⟩ ('"' :: rest) =
      Scanner.scan? ⟨.str pieces.reverse :: before, .between⟩ rest := fun _ => rfl
  have hopen : ∀ text, Scanner.scan? ⟨before, .between⟩ ('"' :: text) =
      Scanner.scan? ⟨before, .str []⟩ text := fun _ => rfl
  rw [stringChars, hcontent, List.cons_append, List.cons_append, List.append_assoc, hopen,
    scan?_content, List.singleton_append, hclose, List.append_nil, List.reverse_reverse]
  rfl

/-! ## Blocks -/

section Block

variable {α : Type} {line : α → List Char} {part : α → List Token} {xs : List α}

/-- Every further line starts with a comma, so that it stops the one in front of it. -/
theorem Stops.further {text : List Char} (htext : Stops text) (depth : Nat) :
    Stops (xs.flatMap (fun x => ',' :: lineStart depth ++ line x) ++ text) := by
  cases xs with
  | nil => exact htext
  | cons x xs => simp

theorem Scans.further {text : List Char} {tokens : List Token}
    (hxs : ∀ x ∈ xs, Scans (line x) (part x)) (htext : Stops text) (h : Scans text tokens)
    (depth : Nat) :
    Scans (xs.flatMap (fun x => ',' :: lineStart depth ++ line x) ++ text)
      (xs.flatMap (fun x => .comma :: part x) ++ tokens) := by
  induction xs with
  | nil => exact h
  | cons x xs ih =>
    obtain ⟨hx, hxs⟩ := List.forall_mem_cons.mp hxs
    simpa using comma (after_lineStart depth (hx.append (htext.further depth) (ih hxs)))

/-- **What stands in lines is scanned line by line.** -/
theorem Scans.of_block {opening closing : Char} {first last : Token}
    (hopening : ∀ scanner : Scanner, scanner.begin? opening = some (scanner.push first))
    (hclosing : ∀ scanner : Scanner, scanner.begin? closing = some (scanner.push last))
    (depth : Nat) (hxs : ∀ x ∈ xs, Scans (line x) (part x)) :
    Scans (block opening closing depth (xs.map line)) (enclosed first last (xs.map part)) := by
  cases xs with
  | nil => exact cons_sign hopening (cons_sign hclosing nil)
  | cons x xs =>
    obtain ⟨hx, hxs⟩ := List.forall_mem_cons.mp hxs
    have hstops : Stops (lineStart depth ++ [closing]) := by simp [lineStart]
    have hend : Scans (lineStart depth ++ [closing]) [last] :=
      after_lineStart depth (cons_sign hclosing nil)
    have hlines := hx.append (hstops.further (depth + 1)) (further hxs hstops hend (depth + 1))
    simpa [block, enclosed, List.flatMap_map] using
      cons_sign hopening (after_lineStart (depth + 1) hlines)

end Block

/-- **A printed value is scanned as its tokens.** -/
theorem scans_chars {value : Value} (h : value.Plain) (depth : Nat) :
    Scans (value.chars depth) value.tokens := by
  induction h generalizing depth with
  | null => exact scans_null
  | bool value => exact scans_bool depth value
  | natural value => exact scans_natural value
  | text text => exact scans_text text
  | array _ ih =>
    rw [Value.chars, Value.tokens, Value.itemLines_eq, Value.itemTokens_eq]
    refine Scans.of_block (fun _ => rfl) (fun _ => rfl) depth fun item hitem => ?_
    exact ih item hitem (depth + 1)
  | members _ ih =>
    rw [Value.ofMembers, Value.chars, Value.tokens, Value.memberLines_eq, Value.memberTokens_eq,
      List.map_map, List.map_map]
    refine Scans.of_block (fun _ => rfl) (fun _ => rfl) depth fun member hmember => ?_
    have hvalue := ih member hmember (depth + 1)
    have hname := scans_text member.1
    simp only [Function.comp_apply, List.append_assoc]
    exact hname.append (by simp) (.colon (.cons_between rfl hvalue))

theorem tokens?_eq (text : List Char) :
    tokens? text = (Scanner.start.scan? text).map (·.tokens.reverse) := by
  unfold tokens? Scanner.scan?
  rcases text.foldlM Scanner.step? Scanner.start with _ | scanner
  · rfl
  · simp only [Option.bind_eq_bind, Option.bind_some]
    cases scanner.complete? <;> rfl

theorem tokens?_pretty {value : Value} (h : value.Plain) :
    tokens? value.pretty.toList = some value.tokens := by
  have hscan := scans_chars h 0 [] [] stops_nil
  rw [List.append_nil, List.append_nil] at hscan
  rw [tokens?_eq, Value.pretty, String.toList_ofList, Scanner.start, hscan, Scanner.scan?_nil,
    Scanner.complete?, Option.map_some, List.reverse_reverse]

end OpShape.Json
