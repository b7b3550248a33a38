/-
# `OpShape.Proofs.Registry.Reading` — what is written is read.

Each part of a schema is read as what it stands for.  The parts are found again because their
brackets pair off, because they neither start nor end with blanks, and because the marks that they
are cut at stand in none of them.
-/
import OpShape.Proofs.Outcome
import OpShape.Proofs.Registry.Grammar

namespace OpShape.Schema

open Text

/-! ## Words -/

theorem Identifier.plain (name : Identifier) : Plain name.chars :=
  fun _ hc => isPlain_of_isIdentifierChar (isIdentifierChar_of_mem name.isIdentifier hc)

theorem Identifier.ne_nil (name : Identifier) : name.chars ≠ [] := by
  have hempty := (Bool.and_eq_true_iff.mp name.isIdentifier).1
  rw [Bool.not_eq_true', List.isEmpty_eq_false_iff] at hempty
  exact hempty

theorem Identifier.solid (name : Identifier) : Solid name.chars :=
  name.plain.solid name.ne_nil

/-! ## Types -/

theorem AliasMark.plain (mark : AliasMark) : Plain mark.inner := by
  refine mark.name.plain.append ?_
  split <;> decide

/-- The words that types start with. -/
def typeWords : List String :=
  ["Tensor", "int", "SymInt", "ScalarType", "Layout", "MemoryFormat", "float", "Scalar", "bool",
    "str", "Device", "Generator"]

theorem IntWord.mem_typeWords (word : IntWord) : word.text ∈ typeWords := by
  cases word <;> decide

theorem FloatWord.mem_typeWords (word : FloatWord) : word.text ∈ typeWords := by
  cases word <;> decide

theorem TypeForm.word_mem_typeWords (type : TypeForm) : type.word ∈ typeWords := by
  cases type with
  | tensor _ _ => exact (by decide : "Tensor" ∈ typeWords)
  | tensors _ _ => exact (by decide : "Tensor" ∈ typeWords)
  | int word _ => exact word.mem_typeWords
  | ints word _ _ => exact word.mem_typeWords
  | float word _ => exact word.mem_typeWords
  | bool _ => exact (by decide : "bool" ∈ typeWords)
  | str _ => exact (by decide : "str" ∈ typeWords)
  | device _ => exact (by decide : "Device" ∈ typeWords)
  | generator _ => exact (by decide : "Generator" ∈ typeWords)

theorem plain_of_mem_typeWords {word : String} (h : word ∈ typeWords) :
    Plain word.toList ∧ word.toList ≠ [] := by
  have hall : ∀ word ∈ typeWords, Plain word.toList ∧ word.toList ≠ [] := by decide
  exact hall word h

theorem plain_lengthChars (length? : Option ListLength) : Plain (lengthChars length?) := by
  cases length? with
  | none => exact fun c hc => by cases hc
  | some length => exact length.numeral.plain

theorem plain_optionalChars (optional : Bool) : Plain (optionalChars optional) := by
  cases optional <;> decide

theorem TypeForm.balanced_suffix (type : TypeForm) {commas : Bool} :
    Balanced commas type.suffix := by
  have hopt : ∀ optional, Balanced commas (optionalChars optional) :=
    fun optional => (plain_optionalChars optional).balanced
  cases type with
  | tensors _ optionalItems =>
    exact (hopt _).append (.square .nil)
  | ints _ length? optional =>
    have hlength : Balanced true (lengthChars length?) := (plain_lengthChars length?).balanced
    exact @Balanced.pair _ ('[', ']') _ _ (by decide) hlength (hopt _)
  | _ => exact hopt _

/-- Only square brackets and plain characters stand behind the word of a type. -/
theorem TypeForm.mem_suffix {type : TypeForm} {c : Char} (hc : c ∈ type.suffix) :
    isPlain c = true ∨ c = '[' ∨ c = ']' := by
  have hopt : ∀ {optional}, c ∈ optionalChars optional → isPlain c = true ∨ c = '[' ∨ c = ']' :=
    fun hc => .inl (plain_optionalChars _ c hc)
  cases type with
  | tensors _ optionalItems =>
    rcases List.mem_append.mp hc with hc | hc
    · exact hopt hc
    · exact .inr (List.mem_pair.mp hc)
  | ints _ length? optional =>
    rcases List.mem_cons.mp hc with rfl | hc
    · exact .inr (.inl rfl)
    rcases List.mem_append.mp hc with hc | hc
    · exact .inl (plain_lengthChars _ c hc)
    rcases List.mem_cons.mp hc with rfl | hc
    · exact .inr (.inr rfl)
    · exact hopt hc
  | _ => exact hopt hc

namespace TypeForm

theorem balanced (type : TypeForm) {commas : Bool} : Balanced commas type.chars := by
  have hword := (plain_of_mem_typeWords type.word_mem_typeWords).1
  refine hword.balanced.append (.append ?_ type.balanced_suffix)
  cases type.mark? with
  | none => exact .nil
  | some mark => exact .round mark.plain.balanced

/-- A type is written without blanks and equals signs. -/
theorem unspaced (type : TypeForm) : ∀ c ∈ type.chars, isBlank c = false ∧ c ≠ '=' := by
  have hplain : ∀ {c}, isPlain c = true → isBlank c = false ∧ c ≠ '=' :=
    fun hc => ⟨(isPlain_iff.mp hc).1, (isPlain_iff.mp hc).2.2.2⟩
  intro c hc
  rcases List.mem_append.mp hc with hc | hc
  · exact hplain ((plain_of_mem_typeWords type.word_mem_typeWords).1 c hc)
  rcases List.mem_append.mp hc with hc | hc
  · cases hmark : type.mark? with
    | none =>
      rw [hmark] at hc
      cases hc
    | some mark =>
      rw [hmark] at hc
      rcases List.mem_cons.mp hc with rfl | hc
      · decide
      rcases List.mem_append.mp hc with hc | hc
      · exact hplain (mark.plain c hc)
      · rw [List.mem_singleton.mp hc]
        decide
  · rcases mem_suffix hc with hc | rfl | rfl
    · exact hplain hc
    · decide
    · decide

theorem solid (type : TypeForm) : Solid type.chars :=
  .of_all (List.append_ne_nil_of_left_ne_nil
    (plain_of_mem_typeWords type.word_mem_typeWords).2 _) fun c hc => (type.unspaced c hc).1

end TypeForm

/-! ## Alias marks -/

theorem withoutAliases_append {x : List Char} (hx : ∀ c ∈ x, c ≠ '(' ∧ c ≠ ')') (depth : Int)
    (rest : List Char) : withoutAliases depth (x ++ rest) =
      (if depth = 0 then x else []) ++ withoutAliases depth rest := by
  induction x with
  | nil => rw [List.nil_append, ite_self, List.nil_append]
  | cons c x ih =>
    rw [List.forall_mem_cons] at hx
    rw [List.cons_append, withoutAliases, if_neg hx.1.1, if_neg hx.1.2, ih hx.2]
    split <;> rfl

theorem ne_round_of_isPlain {c : Char} (hc : isPlain c = true) : c ≠ '(' ∧ c ≠ ')' := by
  constructor
  · rintro rfl
    exact absurd hc (by decide)
  · rintro rfl
    exact absurd hc (by decide)

/-- **Without its alias mark a type is its word and what follows.** -/
theorem withoutAliases_chars (type : TypeForm) :
    withoutAliases 0 type.chars = type.word.toList ++ type.suffix := by
  have hword : ∀ c ∈ type.word.toList, c ≠ '(' ∧ c ≠ ')' := fun c hc =>
    ne_round_of_isPlain ((plain_of_mem_typeWords type.word_mem_typeWords).1 c hc)
  have hsuffix : ∀ c ∈ type.suffix, c ≠ '(' ∧ c ≠ ')' := by
    intro c hc
    rcases TypeForm.mem_suffix hc with hc | rfl | rfl
    · exact ne_round_of_isPlain hc
    · decide
    · decide
  have hend : withoutAliases 0 type.suffix = type.suffix := by
    have happend := withoutAliases_append hsuffix 0 []
    rwa [List.append_nil, if_pos rfl, withoutAliases, List.append_nil] at happend
  rw [TypeForm.chars, withoutAliases_append hword, if_pos rfl]
  congr 1
  cases type.mark? with
  | none => exact hend
  | some mark =>
    have hinner : ∀ c ∈ mark.inner, c ≠ '(' ∧ c ≠ ')' :=
      fun c hc => ne_round_of_isPlain (mark.plain c hc)
    rw [aliasChars, List.cons_append, List.append_assoc, List.singleton_append, withoutAliases,
      if_pos rfl, withoutAliases_append hinner, if_neg (by decide), List.nil_append,
      withoutAliases, if_neg (by decide), if_pos rfl]
    exact hend

/-! ## Kinds -/

/-- The kind of a parameter of the type, and the length that the type gives its lists. -/
def TypeForm.paramType (type : TypeForm) : ParamType where
  type := type.kind
  listLength := type.listLength

theorem stripEnd_append_ne {mark c : Char} (h : c ≠ mark) (text : List Char) :
    stripEnd mark (text ++ [c]) = none := by
  rw [stripEnd, List.getLast?_concat, if_neg (by simpa using h)]

/-- A list of integers, with the length of its type if there is one. -/
theorem parseRequired_ints (word : IntWord) (length? : Option ListLength) :
    parseRequired ((word.text.toList ++ '[' :: lengthChars length?) ++ [']']) =
      .ok { type := .intList, listLength := length?.map fun length => length.numeral.value } := by
  have hopen : '[' ∉ word.text.toList :=
    (plain_of_mem_typeWords word.mem_typeWords).1.not_mem (by decide)
  have hitem : listType? word.text.toList = some .intList := by cases word <;> rfl
  rw [parseRequired, stripEnd_append]
  dsimp only
  rw [cutFirst_append hopen]
  dsimp only
  cases length? with
  | none =>
    rw [hitem]
    rfl
  | some length =>
    have hempty : length.numeral.digits.isEmpty = false :=
      List.isEmpty_eq_false_iff.mpr length.numeral.nonempty
    rw [lengthChars, hempty, Decimal.readSize?_digits _ length.fits, hitem]
    rfl

theorem parseType_ints (word : IntWord) (length? : Option ListLength) (optional : Bool) :
    parseType (((word.text.toList ++ '[' :: lengthChars length?) ++ [']']) ++
      optionalChars optional) = .ok (TypeForm.ints word length? optional).paramType := by
  have hread := parseRequired_ints word length?
  have hlength : (TypeForm.ints word length? optional).listLength =
      length?.map fun length => length.numeral.value := by
    cases length? <;> rfl
  rw [TypeForm.paramType, hlength]
  cases optional with
  | false =>
    rw [optionalChars, if_neg Bool.false_ne_true, List.append_nil, parseType,
      stripEnd_append_ne (by decide)]
    exact hread
  | true =>
    rw [optionalChars, if_pos rfl, parseType, stripEnd_append]
    dsimp only
    rw [hread]
    rfl

/-- **A type is read as the kind that the table gives it.** -/
theorem parseType_chars (type : TypeForm) :
    parseType (type.word.toList ++ type.suffix) = .ok type.paramType := by
  cases type with
  | tensor _ optional =>
    show parseType ("Tensor".toList ++ optionalChars optional) = _
    cases optional <;> rfl
  | tensors _ optionalItems =>
    show parseType ("Tensor".toList ++ (optionalChars optionalItems ++ ['[', ']'])) = _
    cases optionalItems <;> rfl
  | int word optional => cases word <;> cases optional <;> rfl
  | ints word length? optional =>
    have hread := parseType_ints word length? optional
    rw [List.append_assoc, List.append_assoc, List.cons_append, List.singleton_append] at hread
    exact hread
  | float word optional => cases word <;> cases optional <;> rfl
  | bool optional => cases optional <;> rfl
  | str optional => cases optional <;> rfl
  | device optional => cases optional <;> rfl
  | generator optional => cases optional <;> rfl

/-! ## Lists with commas -/

theorem isBlank_of_mem_gap {gap : Nat} : ∀ c ∈ List.replicate gap ' ', isBlank c = true := by
  intro c hc
  rw [List.eq_of_mem_replicate hc]
  decide

theorem balanced_gap (gap : Nat) {commas : Bool} : Balanced commas (List.replicate gap ' ') := by
  refine .of_all fun c hc => ?_
  rw [List.eq_of_mem_replicate hc]
  exact ⟨rfl, fun hcomma => absurd hcomma (by decide)⟩

theorem balanced_commaList {gap : Nat} {items : List (List Char)} {commas : Bool}
    (hitems : ∀ item ∈ items, Balanced commas item) : Balanced true (commaList gap items) :=
  .intercalate (.char rfl (fun _ => rfl) (balanced_gap gap)) hitems

/-- A list that is cut at all of its commas. -/
theorem map_trim_pieces {gap : Nat} {items : List (List Char)} (hne : items ≠ [])
    (hsolid : ∀ item ∈ items, Solid item) (hitems : ∀ item ∈ items, ',' ∉ item) :
    (pieces ',' (commaList gap items)).map trim = items := by
  refine map_trim_cut (fun _ hne hparts => pieces_intercalate hne hparts) isBlank_of_mem_gap ?_ hne
    hsolid hitems
  intro part hpart hmem
  rcases List.mem_append.mp hmem with hgap | hmem
  · exact absurd (List.eq_of_mem_replicate hgap) (by decide)
  · exact hpart hmem

/-- A list that is cut at the commas outside of all brackets. -/
theorem map_trim_outerPieces {gap : Nat} {items : List (List Char)} (hne : items ≠ [])
    (hsolid : ∀ item ∈ items, Solid item) (hitems : ∀ item ∈ items, Balanced false item) :
    (outerPieces ',' (commaList gap items)).map trim = items :=
  map_trim_cut (fun _ hne hparts => outerPieces_intercalate hne hparts) isBlank_of_mem_gap
    (fun _ hpart => (balanced_gap gap).append hpart) hne hsolid hitems

/-! ## Defaults -/

theorem IntForm.plain (form : IntForm) : Plain form.chars := by
  cases form with
  | literal number => exact number.plain
  | contiguousFormat => exact (by decide : Plain contiguousFormatText.toList)

theorem IntForm.ne_nil (form : IntForm) : form.chars ≠ [] := by
  cases form with
  | literal number => exact number.ne_nil
  | contiguousFormat => exact (by decide : contiguousFormatText.toList ≠ [])

theorem IntForm.solid (form : IntForm) : Solid form.chars :=
  form.plain.solid form.ne_nil

/-- **An integer is read as its value.** -/
theorem IntForm.parseInt_chars (form : IntForm) : parseInt form.chars = .ok form.value := by
  cases form with
  | literal number =>
    have hne : number.chars ≠ "contiguous_format".toList :=
      number.ne_cons (by decide) (by decide) _
    rw [IntForm.chars, parseInt, if_neg hne, number.readInt?_chars]
    rfl
  | contiguousFormat => rfl

/-- No integer is written as `None`. -/
theorem IntForm.ne_none (form : IntForm) : form.chars ≠ "None".toList := by
  cases form with
  | literal number => exact number.ne_cons (by decide) (by decide) _
  | contiguousFormat => exact (by decide : contiguousFormatText.toList ≠ "None".toList)

theorem mapM_parseInt (items : List IntForm) :
    (items.map IntForm.chars).mapM parseInt = .ok (items.map IntForm.value) := by
  refine mapM_eq_ok.mpr (List.forall₂_map_left_iff.mpr (List.forall₂_map_right_iff.mpr ?_))
  exact List.forall₂_same.mpr fun item _ => item.parseInt_chars

namespace DefaultForm

variable {type : TypeForm}

theorem balanced (form : DefaultForm type) : Balanced false form.chars := by
  cases form with
  | none => exact (by decide : Plain "None".toList).balanced
  | int value => exact value.plain.balanced
  | list gap items =>
    have hitems : ∀ chars ∈ items.map IntForm.chars, Balanced false chars :=
      List.forall_mem_map.mpr fun item _ => item.plain.balanced
    exact .square (balanced_commaList hitems)
  | repeated item => exact item.plain.balanced
  | float value => exact value.plain.balanced
  | bool value =>
    cases value with
    | false => exact (by decide : Plain "False".toList).balanced
    | true => exact (by decide : Plain "True".toList).balanced
  | str quote body hbody =>
    have hquote : Balanced false [quote.char] := .of_all (by cases quote <;> decide)
    exact hquote.append (hbody.append hquote)

theorem solid (form : DefaultForm type) : Solid form.chars := by
  cases form with
  | none => exact (by decide : Plain "None".toList).solid (by decide)
  | int value => exact value.solid
  | list gap items => exact .enclosed (by decide) (by decide) _
  | repeated item => exact item.solid
  | float value => exact value.plain.solid value.ne_nil
  | bool value =>
    cases value with
    | false => exact (by decide : Plain "False".toList).solid (by decide)
    | true => exact (by decide : Plain "True".toList).solid (by decide)
  | str quote body _ =>
    have hquote : isBlank quote.char = false := by cases quote <;> decide
    exact .enclosed hquote hquote body

end DefaultForm

theorem stripStart_eq_none {c : Char} {text : List Char} (h : c ∉ text.head?) :
    stripStart [c] text = none := by
  cases text with
  | nil => rfl
  | cons d rest =>
    rw [stripStart, if_neg]
    rintro rfl
    exact h rfl

/-- What stands between two marks is found by taking them away. -/
theorem strip_enclosed (start stop : Char) (text : List Char) :
    (stripStart [start] (start :: (text ++ [stop]))).bind (stripEnd stop) = some text := by
  have hstart : stripStart [start] (start :: (text ++ [stop])) = some (text ++ [stop]) :=
    stripStart_append [start] _
  rw [hstart, Option.bind_some, stripEnd_append]

/-- Items in brackets are read one by one. -/
theorem parseListDefault_items (gap : Nat) (items : List IntForm) (length? : Option Nat) :
    parseListDefault ('[' :: (commaList gap (items.map IntForm.chars) ++ [']'])) length? =
      .ok (.intList (items.map IntForm.value)) := by
  have hitems : ((pieces ',' (commaList gap (items.map IntForm.chars))).map trim).filter
      (fun item => !item.isEmpty) = items.map IntForm.chars := by
    cases items with
    | nil => rfl
    | cons item items =>
      have hne : (item :: items).map IntForm.chars ≠ [] := List.cons_ne_nil _ _
      rw [map_trim_pieces hne, List.filter_eq_self]
      · intro chars hchars
        obtain ⟨item, -, rfl⟩ := List.mem_map.mp hchars
        rw [List.isEmpty_eq_false_iff.mpr item.ne_nil, Bool.not_false]
      · exact List.forall_mem_map.mpr fun item _ => item.solid
      · exact List.forall_mem_map.mpr fun item _ => item.plain.not_mem (by decide)
  unfold parseListDefault
  rw [strip_enclosed]
  dsimp only
  rw [hitems, mapM_parseInt]
  rfl

/-- One integer is repeated. -/
theorem parseListDefault_repeated (item : IntForm) (length : Nat) :
    parseListDefault item.chars (some length) =
      .ok (.intList (List.replicate length item.value)) := by
  have hopen : '[' ∉ item.chars.head? :=
    fun hhead => item.plain.not_mem (by decide) (List.mem_of_mem_head? hhead)
  unfold parseListDefault
  rw [stripStart_eq_none hopen, Option.bind_none]
  dsimp only
  rw [item.parseInt_chars]
  rfl

theorem unquoted?_chars (quote : QuoteMark) (body : List Char) :
    unquoted? (quote.char :: (body ++ [quote.char])) = some body := by
  cases quote with
  | double =>
    rw [QuoteMark.char, unquoted?, strip_enclosed]
    rfl
  | single =>
    rw [QuoteMark.char, unquoted?, strip_enclosed]
    rfl

/-- **A default is read as its value.** -/
theorem parseDefault_chars {type : TypeForm} (form : DefaultForm type) :
    parseDefault form.chars type.paramType = .ok form.value := by
  cases form with
  | none => rfl
  | @int _ optional value =>
    unfold parseDefault
    rw [DefaultForm.chars, if_neg value.ne_none]
    cases optional <;> dsimp only [TypeForm.paramType, TypeForm.kind] <;>
      rw [value.parseInt_chars] <;> rfl
  | @list _ _ optional gap items =>
    unfold parseDefault
    rw [DefaultForm.chars, if_neg (fun h => by cases h)]
    cases optional <;> exact parseListDefault_items gap items _
  | @repeated _ _ optional item =>
    unfold parseDefault
    rw [DefaultForm.chars, if_neg item.ne_none]
    cases optional <;> exact parseListDefault_repeated item _
  | @float _ optional value =>
    have hne : value.chars ≠ "None".toList := value.ne_cons (by decide) (by decide) _
    unfold parseDefault
    rw [DefaultForm.chars, if_neg hne]
    cases optional <;> dsimp only [TypeForm.paramType, TypeForm.kind] <;>
      rw [value.readFloat?_chars] <;> rfl
  | @bool optional value => cases optional <;> cases value <;> rfl
  | @str optional quote body _ =>
    unfold parseDefault
    rw [DefaultForm.chars, if_neg (fun h => by cases quote <;> cases h)]
    cases optional <;> dsimp only [TypeForm.paramType, TypeForm.kind] <;>
      rw [unquoted?_chars] <;> rfl

/-! ## Parameters -/

namespace ParamForm

variable (form : ParamForm)

theorem not_mem_declared : '=' ∉ form.declared := by
  intro hmem
  rcases List.mem_append.mp hmem with hmem | hmem
  · exact (form.type.unspaced _ hmem).2 rfl
  rcases List.mem_cons.mp hmem with hmem | hmem
  · exact absurd hmem (by decide)
  · exact form.name.plain.not_mem (by decide) hmem

theorem solid_declared : Solid form.declared :=
  form.type.solid.around form.name.solid [' ']

theorem balanced_declared : Balanced false form.declared :=
  form.type.balanced.append (.char rfl (fun h => absurd h (by decide)) form.name.plain.balanced)

/-- The name stands behind the last space. -/
theorem cutLast_declared :
    cutLast ' ' form.declared = some (form.type.chars, form.name.chars) :=
  cutLast_append (form.name.plain.not_mem (by decide)) _

theorem balanced : Balanced false form.chars := by
  unfold chars
  split
  · exact form.balanced_declared
  · next default _ =>
    exact form.balanced_declared.append
      (.char rfl (fun h => absurd h (by decide)) default.balanced)

theorem solid : Solid form.chars := by
  unfold chars
  split
  · exact form.solid_declared
  · next default _ => exact form.solid_declared.around default.solid ['=']

/-- A parameter is no star, because there is a space in it. -/
theorem ne_star : form.chars ≠ ['*'] := by
  have hmem : ' ' ∈ form.declared := List.mem_append_right _ List.mem_cons_self
  have hchars : ' ' ∈ form.chars := by
    unfold chars
    split
    · exact hmem
    · exact List.mem_append_left _ hmem
  intro h
  rw [h] at hchars
  exact absurd hchars (by decide)

/-- **A parameter is read as its name, its kind and its default.** -/
theorem parseParam_chars : parseParam form.chars = .ok form.param := by
  have htype : parseType (withoutAliases 0 (trim form.type.chars)) = .ok form.type.paramType := by
    rw [form.type.solid.trim_eq, withoutAliases_chars, parseType_chars]
  have hname : String.ofList (trim form.name.chars) = form.name.text := by
    rw [form.name.solid.trim_eq, Identifier.chars, String.ofList_toList]
  cases hdefault : form.default? with
  | none =>
    have hchars : form.chars = form.declared := by rw [chars, hdefault]
    have hparam : form.param =
        { name := form.name.text, type := form.type.kind, default := none } := by
      rw [param, hdefault, Option.map_none]
    unfold parseParam
    rw [hchars, cutFirst_eq_none form.not_mem_declared]
    dsimp only
    rw [form.cutLast_declared]
    dsimp only
    rw [htype, hname, hparam]
    rfl
  | some default =>
    have hchars : form.chars = form.declared ++ '=' :: default.chars := by rw [chars, hdefault]
    have hparam : form.param =
        { name := form.name.text, type := form.type.kind, default := some default.value } := by
      rw [param, hdefault, Option.map_some]
    unfold parseParam
    rw [hchars, cutFirst_append form.not_mem_declared]
    dsimp only
    rw [form.solid_declared.trim_eq, form.cutLast_declared]
    dsimp only
    rw [htype, hname, hparam, default.solid.trim_eq, ok_bind, parseDefault_chars]
    rfl

end ParamForm

end OpShape.Schema
