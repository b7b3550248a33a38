/-
# `OpShape.Proofs.Run.NameOrder` — the order of names beside the order of their texts.

Names are compared part by part, and a manifest is sorted by texts.  Where one part goes on behind
the end of another one, the text of the shorter one goes on with a mark.  A point comes before every
character of a word, so that names and overloads are in the same order either way.  A colon comes
before the letters and the underscore but behind the digits: a scope that goes on behind another one
with a digit comes after it as a name and before it as a text, and nothing else tells the two orders
apart.
-/
import OpShape.Proofs.Run.Order

namespace OpShape

/-! ## Texts with something behind them -/

/-- **`Clear x r y`** — whatever `y` has behind `x` comes after what `r` begins with. -/
def Clear (x r y : List Char) : Prop :=
  ∀ c rest, y = x ++ c :: rest → ∀ mark ∈ r.head?, mark < c

theorem clear_nil (x y : List Char) : Clear x [] y :=
  fun _ _ _ _ hmark => by cases hmark

theorem Clear.tail {c : Char} {x r y : List Char} (h : Clear (c :: x) r (c :: y)) : Clear x r y :=
  fun d rest hrest => h d rest (congrArg (c :: ·) hrest)

/-- A text with something behind it comes before one that it is the beginning of. -/
theorem lt_append_of_clear {r s : List Char} {c : Char} {y : List Char}
    (h : Clear [] r (c :: y)) : r < c :: y ++ s := by
  cases r with
  | nil => exact List.nil_lt_cons c (y ++ s)
  | cons mark r => exact List.cons_lt_cons_iff.mpr (.inl (h c y rfl mark rfl))

/-- **Two texts with something behind them are in the order of the texts**, and texts that are the
same in the order of what is behind them, if where one text goes on it is clear of what follows the
other one. -/
theorem append_lt_append_iff {x y r s : List Char} (hx : Clear x r y) (hy : Clear y s x) :
    x ++ r < y ++ s ↔ x < y ∨ x = y ∧ r < s := by
  induction x generalizing y with
  | nil =>
    cases y with
    | nil => simp
    | cons c y =>
      have hlt : r < c :: y ++ s := lt_append_of_clear hx
      simpa using hlt
  | cons c x ih =>
    cases y with
    | nil =>
      have hlt : s < c :: x ++ r := lt_append_of_clear hy
      constructor
      · intro hgt
        exact absurd hgt (List.lt_asymm hlt)
      · rintro (hnil | ⟨hnil, -⟩)
        · exact absurd hnil (List.not_lt_nil _)
        · cases hnil
    | cons d y =>
      rw [List.cons_append, List.cons_append, List.cons_lt_cons_iff, List.cons_lt_cons_iff,
        List.cons.injEq]
      by_cases hcd : c = d
      · subst hcd
        rw [ih hx.tail hy.tail]
        simp
      · simp [hcd]

namespace OpName

open Text

/-! ## Marks among the characters of words -/

theorem point_lt_of_isIdentifierChar {c : Char} (h : isIdentifierChar c = true) : '.' < c :=
  forall_identifierChar (p := fun c => '.' < c) (by decide) h

/-- A character of a word is a digit or comes after a colon. -/
theorem isDigit_or_colon_lt {c : Char} (h : isIdentifierChar c = true) :
    c.isDigit = true ∨ ':' < c :=
  forall_identifierChar (p := fun c => c.isDigit = true ∨ ':' < c) (by decide) h

theorem lt_colon_of_isDigit {c : Char} (h : c.isDigit = true) : c < ':' :=
  forall_identifierChar (p := fun c => c.isDigit = true → c < ':') (by decide)
    (isIdentifierChar_of_isDigit h) h

/-- What begins with a point is clear of every word. -/
theorem clear_point {x r y : List Char} (hy : isIdentifier y = true) : Clear x ('.' :: r) y := by
  rintro c rest rfl mark hmark
  obtain rfl : '.' = mark := Option.some.inj hmark
  exact point_lt_of_isIdentifierChar (isIdentifierChar_of_mem hy (by simp))

/-! ## Overloads and names -/

/-- An overload as it is written behind a name. -/
def overloadChars : Option String → List Char
  | none => []
  | some overload => '.' :: overload.toList

theorem clear_overloadChars {x y : List Char} {overload : Option String}
    (hy : isIdentifier y = true) : Clear x (overloadChars overload) y := by
  cases overload with
  | none => exact clear_nil x y
  | some overload => exact clear_point hy

/-- Overloads come in the order of what is written of them. -/
theorem overloadChars_lt_iff {a b : Option String} :
    overloadChars a < overloadChars b ↔ overloadBefore a b = true := by
  cases a with
  | none => cases b <;> simp [overloadChars, overloadBefore]
  | some a =>
    cases b with
    | none => simp [overloadChars, overloadBefore]
    | some b =>
      rw [overloadChars, overloadChars, List.cons_lt_cons_iff, overloadBefore, decide_eq_true_iff,
        String.lt_iff, and_iff_right rfl, or_iff_right (Char.lt_irrefl '.')]

/-- What is written behind the colons: the name and the overload. -/
def localChars (op : OpName) : List Char :=
  op.name.toList ++ overloadChars op.overload

theorem toList_text (op : OpName) :
    op.text.toList = op.scope.toList ++ ':' :: ':' :: op.localChars := by
  obtain ⟨scope, name, overload⟩ := op
  cases overload <;> simp [text, localChars, overloadChars]

/-- Names with their overloads come in the order of what is written of them. -/
theorem localChars_lt_iff {a b : OpName} (ha : a.WellFormed) (hb : b.WellFormed) :
    a.localChars < b.localChars ↔
      a.name < b.name ∨ a.name = b.name ∧ overloadBefore a.overload b.overload = true := by
  unfold localChars
  rw [append_lt_append_iff (clear_overloadChars (isIdentifier_iff.mpr hb.name))
    (clear_overloadChars (isIdentifier_iff.mpr ha.name)), overloadChars_lt_iff,
    String.toList_inj, String.lt_iff]

/-! ## Scopes -/

/-- **The second scope goes on behind the end of the first one with a digit.** -/
def DigitFollows (short long : String) : Prop :=
  ∃ digit : Char, digit.isDigit = true ∧ short.toList ++ [digit] <+: long.toList

theorem before_iff {a b : OpName} :
    a.before b = true ↔
      a.scope < b.scope ∨ a.scope = b.scope ∧
        (a.name < b.name ∨ a.name = b.name ∧ overloadBefore a.overload b.overload = true) := by
  simp [before]

/-- Unless it goes on with a digit, a scope is clear of the colons behind another one. -/
theorem clear_colon {short long : String} {r : List Char} (hlong : IsWord long)
    (h : ¬ DigitFollows short long) : Clear short.toList (':' :: r) long.toList := by
  intro c rest hrest mark hmark
  obtain rfl : ':' = mark := Option.some.inj hmark
  have hc : isIdentifierChar c = true :=
    isIdentifierChar_of_mem (isIdentifier_iff.mpr hlong) (by simp [hrest])
  refine (isDigit_or_colon_lt hc).resolve_left fun hdigit => h ⟨c, hdigit, rest, ?_⟩
  rw [hrest, List.append_assoc, List.singleton_append]

/-- **Without such a digit names are in the order of their texts.** -/
theorem before_iff_text_lt {a b : OpName} (ha : a.WellFormed) (hb : b.WellFormed)
    (hab : ¬ DigitFollows a.scope b.scope) (hba : ¬ DigitFollows b.scope a.scope) :
    a.before b = true ↔ a.text < b.text := by
  have hpair : (':' :: ':' :: a.localChars < ':' :: ':' :: b.localChars) ↔
      a.localChars < b.localChars := by
    simp
  rw [String.lt_iff, toList_text, toList_text,
    append_lt_append_iff (clear_colon hb.scope hab) (clear_colon ha.scope hba), hpair,
    localChars_lt_iff ha hb, before_iff, String.toList_inj, String.lt_iff]

theorem lt_of_digitFollows {short long : String} (h : DigitFollows short long) : short < long := by
  obtain ⟨digit, -, rest, hrest⟩ := h
  have hbehind : short.toList ++ [] < short.toList ++ digit :: rest :=
    List.append_left_lt (List.nil_lt_cons digit rest)
  rwa [List.append_nil, List.append_cons, hrest, ← String.lt_iff] at hbehind

/-- **With such a digit names are in the opposite order of their texts.** -/
theorem opposite_of_digitFollows {a b : OpName} (h : DigitFollows a.scope b.scope) :
    a.before b = true ∧ b.text < a.text := by
  refine ⟨before_iff.mpr (.inl (lt_of_digitFollows h)), ?_⟩
  obtain ⟨digit, hdigit, rest, hrest⟩ := h
  rw [String.lt_iff, toList_text, toList_text, ← hrest, List.append_assoc, List.append_assoc]
  exact List.append_left_lt (List.cons_lt_cons_iff.mpr (.inl (lt_colon_of_isDigit hdigit)))

theorem not_before_of_digitFollows {a b : OpName} (h : DigitFollows a.scope b.scope) :
    ¬ b.before a = true := by
  rw [before_iff]
  rintro (hlt | ⟨heq, -⟩)
  · exact String.lt_asymm (lt_of_digitFollows h) hlt
  · exact String.lt_irrefl _ (heq ▸ lt_of_digitFollows h)

/-! ## Bytes -/

/-- The bytes of a text. -/
def bytes (text : String) : List UInt8 :=
  text.toUTF8.data.toList

/-- A text of ASCII characters has one byte for each of them. -/
theorem bytes_eq_map {text : String} (h : ∀ c ∈ text.toList, c.toNat < 128) :
    bytes text = text.toList.map fun c => UInt8.ofNat c.toNat := by
  have hencode : ∀ c ∈ text.toList, String.utf8EncodeChar c = [UInt8.ofNat c.toNat] :=
    fun c hc => if_pos (Nat.le_of_lt_succ (h c hc))
  have hchars : text.toList.flatMap String.utf8EncodeChar =
      text.toList.map fun c => UInt8.ofNat c.toNat := by
    rw [List.flatMap_congr hencode, List.map_eq_flatMap]
  unfold bytes
  conv_lhs => rw [← String.ofList_toList (s := text)]
  rw [String.toUTF8_eq_toByteArray, String.toByteArray_ofList, List.utf8Encode,
    List.data_toByteArray, hchars]

/-- Lists are in one order with what is made of them entry by entry, in an order that is kept. -/
theorem map_lt_map_iff {f : Char → UInt8} {x y : List Char}
    (h : ∀ c ∈ x, ∀ d ∈ y, (f c < f d ↔ c < d) ∧ (f c = f d ↔ c = d)) :
    x.map f < y.map f ↔ x < y := by
  induction x generalizing y with
  | nil => cases y <;> simp
  | cons c x ih =>
    cases y with
    | nil => simp
    | cons d y =>
      obtain ⟨hlt, heq⟩ := h c List.mem_cons_self d List.mem_cons_self
      rw [List.map_cons, List.map_cons, List.cons_lt_cons_iff, List.cons_lt_cons_iff, hlt, heq,
        ih fun c hc d hd => h c (List.mem_cons_of_mem _ hc) d (List.mem_cons_of_mem _ hd)]

/-- **Texts of ASCII characters are in the order of their bytes.** -/
theorem bytes_lt_iff {a b : String} (ha : ∀ c ∈ a.toList, c.toNat < 128)
    (hb : ∀ c ∈ b.toList, c.toNat < 128) : bytes a < bytes b ↔ a < b := by
  rw [bytes_eq_map ha, bytes_eq_map hb, String.lt_iff]
  refine map_lt_map_iff fun c hc d hd => ?_
  have hbyte : ∀ n < 128, (UInt8.ofNat n).toNat = n := fun n hn =>
    UInt8.toNat_ofNat_of_lt (Nat.lt_trans hn (by decide))
  rw [UInt8.lt_iff_toNat_lt, ← UInt8.toNat_inj, hbyte _ (ha c hc), hbyte _ (hb d hd)]
  exact ⟨Iff.rfl, Char.toNat_inj⟩

theorem WellFormed.ascii {op : OpName} (h : op.WellFormed) :
    ∀ c ∈ op.text.toList, c.toNat < 128 := by
  have hword : ∀ word, IsWord word → ∀ c ∈ word.toList, c.toNat < 128 := fun word hword c hc =>
    toNat_lt_of_isIdentifierChar (isIdentifierChar_of_mem (isIdentifier_iff.mpr hword) hc)
  have hoverload : ∀ c ∈ overloadChars op.overload, c.toNat < 128 := by
    intro c hc
    cases hop : op.overload with
    | none => simp [hop, overloadChars] at hc
    | some overload =>
      rw [hop, overloadChars, List.mem_cons] at hc
      rcases hc with rfl | hc
      · decide
      · exact hword overload (h.overload overload hop) c hc
  rw [toList_text]
  simp only [localChars, List.forall_mem_append, List.forall_mem_cons]
  exact ⟨hword _ h.scope, by decide, by decide, hword _ h.name, hoverload⟩

end OpName

/-! ## Manifests -/

/-- What was verified belongs to the functions of the library, in their order. -/
theorem verifyAll_functions {oracle : Oracle} {token : Nat} {functions : List ShapeFunction}
    {verified : List (ShapeFunction × List VerifiedInvocation)}
    (h : verifyAll oracle token functions = .ok verified) : verified.map Prod.fst = functions := by
  rw [verifyAll_eq_mapM] at h
  rw [← trialsFrom_functions token functions, map_eq_map_iff_forall₂]
  refine (mapM_eq_ok.mp h).flip.imp fun result run hrun => ?_
  obtain ⟨invocations, -, rfl⟩ := verifyTrials_eq_ok.mp hrun
  rfl

section Sorted

variable {library : ShapeLibrary} {oracle : Oracle} {registry : Registry} {manifest : Manifest}

/-- The operators of a manifest are those of the library, sorted by their texts. -/
theorem exists_ops_of_generate (h : generate library oracle registry = .ok manifest) :
    ∃ ops : List OpName, ops.Perm library.ops ∧
      manifest.functions.map FunctionEntry.op = ops.map OpName.text ∧
      ops.Pairwise fun a b => a.text ≤ b.text := by
  obtain ⟨verified, hverified, -, rfl⟩ := generate_eq_ok.mp h
  have hsorted := (Manifest.records_ofVerified hverified).sorted
  have hops : library.ops = verified.map fun entry => entry.1.op := by
    rw [ShapeLibrary.ops, ← verifyAll_functions hverified, List.map_map]
    rfl
  -- The entries are sorted as what was verified is by the texts of its operators.
  have hfunctions : (Manifest.ofVerified verified).functions =
      (verified.mergeSort fun a b => decide (a.1.op.text ≤ b.1.op.text)).map .ofVerified := by
    unfold Manifest.ofVerified
    exact (List.map_mergeSort (f := FunctionEntry.ofVerified) fun _ _ _ _ => rfl).symm
  refine ⟨(verified.mergeSort fun a b => decide (a.1.op.text ≤ b.1.op.text)).map fun entry =>
    entry.1.op, ?_, ?_, ?_⟩
  · rw [hops]
    exact (List.mergeSort_perm _ _).map _
  · rw [hfunctions, List.map_map, List.map_map]
    rfl
  · rw [hfunctions, List.pairwise_map] at hsorted
    exact List.pairwise_map.mpr hsorted

/-- No two operators of a library that was built by names have the same text. -/
theorem ShapeLibrary.BuiltByName.text_lt (h : library.BuiltByName) {ops : List OpName}
    (hperm : ops.Perm library.ops) (hsorted : ops.Pairwise fun a b => a.text ≤ b.text) :
    ops.Pairwise fun a b => a.text < b.text := by
  have htexts : (library.ops.map OpName.text).Nodup := by
    rw [ShapeLibrary.ops, List.map_map]
    exact h.nodup_texts
  have hdistinct : ops.Pairwise fun a b => a.text ≠ b.text :=
    List.pairwise_map.mp ((hperm.map OpName.text).nodup_iff.mpr htexts)
  refine (hsorted.and hdistinct).imp ?_
  rintro a b ⟨hle, hne⟩
  by_contra hlt
  exact hne (String.le_antisymm hle (String.not_lt.mp hlt))

/-- What is in both orders has no scope that goes on behind another one with a digit. -/
theorem not_digitFollows_of_pairwise {ops : List OpName}
    (htexts : ops.Pairwise fun a b => a.text < b.text)
    (hnames : ops.Pairwise fun a b => a.before b = true) :
    ∀ a ∈ ops, ∀ b ∈ ops, ¬ OpName.DigitFollows a.scope b.scope := by
  intro a ha b hb hdigit
  have hlt := (OpName.opposite_of_digitFollows hdigit).2
  obtain ⟨i, hi, rfl⟩ := List.getElem_of_mem ha
  obtain ⟨j, hj, rfl⟩ := List.getElem_of_mem hb
  rcases Nat.lt_trichotomy i j with hij | rfl | hji
  · exact String.lt_asymm hlt (List.pairwise_iff_getElem.mp htexts i j hi hj hij)
  · exact String.lt_irrefl _ hlt
  · exact OpName.not_before_of_digitFollows hdigit
      (List.pairwise_iff_getElem.mp hnames j i hj hi hji)

end Sorted

/-! ## The two orders -/

/-- **A manifest is in the order of its texts**, byte by byte, and never has the same text twice.
The order of names answers as that of texts does, unless one scope goes on behind the other one with
a digit; then the answers are opposite.  So the operators of a manifest are in the order of names
exactly if no scope goes on behind another one with a digit. -/
theorem manifest_in_order_of_texts :
    (∀ (s t : String) (a b : OpName), OpName.ofText? s = some a → OpName.ofText? t = some b →
      (OpName.DigitFollows a.scope b.scope →
        a.before b = true ∧ OpName.bytes b.text < OpName.bytes a.text) ∧
      (¬ OpName.DigitFollows a.scope b.scope → ¬ OpName.DigitFollows b.scope a.scope →
        (a.before b = true ↔ OpName.bytes a.text < OpName.bytes b.text))) ∧
      ∀ (library : ShapeLibrary) (oracle : Oracle) (registry : Registry) (manifest : Manifest),
        library.BuiltByName → generate library oracle registry = .ok manifest →
          ∃ ops : List OpName, ops.Perm library.ops ∧
            manifest.functions.map FunctionEntry.op = ops.map OpName.text ∧
            (ops.Pairwise fun a b => OpName.bytes a.text < OpName.bytes b.text) ∧
            ((ops.Pairwise fun a b => a.before b = true) ↔
              ∀ a ∈ ops, ∀ b ∈ ops, ¬ OpName.DigitFollows a.scope b.scope) := by
  constructor
  · intro s t a b hs ht
    have ha := (OpName.ofText?_eq_some.mp hs).1
    have hb := (OpName.ofText?_eq_some.mp ht).1
    rw [OpName.bytes_lt_iff ha.ascii hb.ascii, OpName.bytes_lt_iff hb.ascii ha.ascii]
    exact ⟨OpName.opposite_of_digitFollows, OpName.before_iff_text_lt ha hb⟩
  · intro library oracle registry manifest hbuilt h
    obtain ⟨ops, hperm, hfunctions, hsorted⟩ := exists_ops_of_generate h
    have hwell : ∀ op ∈ ops, op.WellFormed := by
      intro op hop
      obtain ⟨function, hfunction, rfl⟩ := List.mem_map.mp (hperm.mem_iff.mp hop)
      exact OpName.named_iff.mp (hbuilt.named function hfunction)
    have htexts := hbuilt.text_lt hperm hsorted
    refine ⟨ops, hperm, hfunctions, ?_, ?_, ?_⟩
    · refine htexts.imp_of_mem fun ha hb hlt => ?_
      exact (OpName.bytes_lt_iff (hwell _ ha).ascii (hwell _ hb).ascii).mpr hlt
    · exact not_digitFollows_of_pairwise htexts
    · intro hnone
      refine htexts.imp_of_mem fun ha hb hlt => ?_
      exact (OpName.before_iff_text_lt (hwell _ ha) (hwell _ hb) (hnone _ ha _ hb)
        (hnone _ hb _ ha)).mpr hlt

/-- A count and a copy stand in a manifest in the order of their names. -/
theorem manifest_in_order_of_texts_pair :
    ∃ (manifest : Manifest) (ops : List OpName),
      generate (.run .empty (countActions ++ copyActions)) refusingOracle .empty = .ok manifest ∧
        manifest.functions.map FunctionEntry.op = ops.map OpName.text ∧
        ops.length = 2 ∧ ops.Pairwise fun a b => a.before b = true := by
  have hbuilt : ShapeLibrary.BuiltByName (.run .empty (countActions ++ copyActions)) :=
    ⟨_, by simp [countActions, copyActions, LibraryAction.ByName], rfl⟩
  obtain ⟨manifest, hmanifest⟩ : ∃ manifest,
      generate (.run .empty (countActions ++ copyActions)) refusingOracle .empty = .ok manifest :=
    ⟨_, rfl⟩
  obtain ⟨ops, hperm, hfunctions, -, hnames⟩ :=
    manifest_in_order_of_texts.2 _ _ _ manifest hbuilt hmanifest
  have hops : (ShapeLibrary.run .empty (countActions ++ copyActions)).ops =
      [Builtin.aten "bincount", Builtin.aten "clone"] := rfl
  rw [hops] at hperm
  have hscope : ∀ op ∈ ops, op.scope = "aten" := by
    intro op hop
    have hmem := hperm.mem_iff.mp hop
    simp only [List.mem_cons, List.not_mem_nil, or_false] at hmem
    rcases hmem with rfl | rfl <;> rfl
  refine ⟨manifest, ops, hmanifest, hfunctions, hperm.length_eq, hnames.mpr ?_⟩
  intro a ha b hb hdigit
  have hlt := OpName.lt_of_digitFollows hdigit
  rw [hscope a ha, hscope b hb] at hlt
  exact String.lt_irrefl _ hlt

/-- Register operators of the same name in two scopes, of which one goes on with a digit. -/
def scopedActions : List LibraryAction := [
  .register "a0::x" { params := [Builtin.param "self" .tensor], returns := 1 }
    (Builtin.one Builtin.selfShape),
  .register "a::x" { params := [Builtin.param "self" .tensor], returns := 1 }
    (Builtin.one Builtin.selfShape),
  .markExempt { scope := "a0", name := "x", overload := none },
  .markExempt { scope := "a", name := "x", overload := none }]

/-- The function of one of the two scopes. -/
def scopedFunction (scope : String) : ShapeFunction :=
  (ShapeLibrary.newFunction { scope, name := "x", overload := none }
    { params := [Builtin.param "self" .tensor], returns := 1 }
    (Builtin.one Builtin.selfShape)).markExempt

/-- **A manifest need not be in the order of names**: the operator whose scope has a digit more
stands in front of the other one, and comes after it as a name. -/
theorem manifest_out_of_order :
    ∃ manifest, ShapeLibrary.BuiltByName (.run .empty scopedActions) ∧
      generate (.run .empty scopedActions) refusingOracle .empty = .ok manifest ∧
        (manifest.functions.map fun entry => OpName.ofText? entry.op) = [
          some { scope := "a0", name := "x", overload := none },
          some { scope := "a", name := "x", overload := none }] ∧
        OpName.before { scope := "a0", name := "x", overload := none }
          { scope := "a", name := "x", overload := none } = false ∧
        OpName.before { scope := "a", name := "x", overload := none }
          { scope := "a0", name := "x", overload := none } = true := by
  have hfunctions : (ShapeLibrary.run .empty scopedActions).functions =
      [scopedFunction "a0", scopedFunction "a"] := rfl
  have hgenerate : generate (.run .empty scopedActions) refusingOracle .empty =
      .ok (.ofVerified [(scopedFunction "a0", []), (scopedFunction "a", [])]) :=
    generate_eq_ok.mpr ⟨_, by rw [hfunctions]; rfl, rfl, rfl⟩
  refine ⟨_, ⟨_, by simp [scopedActions, LibraryAction.ByName], rfl⟩, hgenerate, ?_, by decide,
    by decide⟩
  -- The functions were registered in the order of their texts, so that sorting leaves them there.
  have hsorted : [(scopedFunction "a0", []), (scopedFunction "a", [])].map
      FunctionEntry.ofVerified |>.Pairwise fun a b => decide (a.op ≤ b.op) = true := by
    decide
  unfold Manifest.ofVerified
  rw [List.mergeSort_of_pairwise hsorted]
  rfl

end OpShape
