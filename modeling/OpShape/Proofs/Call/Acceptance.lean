/-
# `OpShape.Proofs.Call.Acceptance` — which calls a signature accepts, and what it binds.

Binding goes through a call in three steps, each of which may refuse.  What is accepted in the end
is said without them: every argument is for a parameter of its own, and every parameter that is left
over has a default.  How an argument is passed leaves no trace.  A positional argument is the same
as a keyword of the name of the parameter in its place, so that a call is known by the table of its
arguments by name, and tables in another order are the same call.
-/
import OpShape.Call.Bind
import OpShape.Proofs.Keyed
import OpShape.Proofs.Outcome

namespace OpShape

variable {τ : Type}

/-! ## What a call gives to a parameter -/

/-- The argument that a table gives to a name: that of its first entry of the name. -/
def namedArg? (table : List (String × Arg τ)) (name : String) : Option (Arg τ) :=
  (table.find? fun entry => entry.1 = name).map Prod.snd

section Tables

variable {table other : List (String × Arg τ)} {name : String}

theorem namedArg?_eq_none : namedArg? table name = none ↔ ∀ entry ∈ table, entry.1 ≠ name := by
  simp [namedArg?, List.find?_eq_none]

theorem namedArg?_append :
    namedArg? (table ++ other) name = (namedArg? table name).or (namedArg? other name) := by
  unfold namedArg?
  rw [List.find?_append, Option.map_or]

/-- An entry gives its argument to its name and nothing to any other. -/
theorem namedArg?_singleton (key : String) (value : Arg τ) :
    namedArg? [(key, value)] name = if key = name then some value else none := by
  unfold namedArg?
  rw [List.find?_cons]
  by_cases hkey : key = name <;> simp [hkey]

theorem keys_zip (names : List String) (values : List (Arg τ)) :
    (names.zip values).map Prod.fst = names.take values.length := by
  induction names generalizing values with
  | nil => simp
  | cons name names ih =>
    cases values with
    | nil => rfl
    | cons value values => rw [List.zip_cons_cons, List.map_cons, ih, List.length_cons,
        List.take_succ_cons]

/-- Names that come with their arguments one by one give each of them its own. -/
theorem namedArg?_zip {names : List String} (hnames : names.Nodup) (values : List (Arg τ))
    {place : Nat} (hplace : names[place]? = some name) :
    namedArg? (names.zip values) name = values[place]? := by
  have hkeys : ((names.zip values).map Prod.fst).Nodup := by
    rw [keys_zip]
    exact hnames.sublist (List.take_sublist _ _)
  apply Option.ext
  intro value
  unfold namedArg?
  rw [find?_key_eq_some hkeys, List.mem_iff_getElem?]
  simp only [List.getElem?_zip_eq_some]
  constructor
  · rintro ⟨other, hother, hvalue⟩
    obtain ⟨hlt, hat⟩ := List.getElem?_eq_some_iff.mp hplace
    obtain ⟨hlt', hat'⟩ := List.getElem?_eq_some_iff.mp hother
    rwa [hnames.getElem_inj_iff.mp (hat.trans hat'.symm)]
  · exact fun hvalue => ⟨place, hplace, hvalue⟩

end Tables

namespace CallArgs

/-- The argument that a call gives to the parameter at a place: the positional one there, or else
that of a keyword of its name. -/
def given? (args : CallArgs τ) (place : Nat) (param : Param) : Option (Arg τ) :=
  args.positional[place]?.or (namedArg? args.keywords param.name)

/-- What the parameter at a place is bound to: what the call gives to it, or else its default. -/
def value? (args : CallArgs τ) (place : Nat) (param : Param) : Option (Arg τ) :=
  (args.given? place param).or (param.default.map Default.toArg)

end CallArgs

namespace Signature

/-- **Every argument of the call is for a parameter of its own**: there is a parameter for each, and
none is given two arguments. -/
structure Addresses (signature : Signature) (args : CallArgs τ) : Prop where
  positional_le : args.positional.length ≤ signature.params.length
  known : ∀ keyword ∈ args.keywords, ∃ param ∈ signature.params, param.name = keyword.1
  unfilled : ∀ keyword ∈ args.keywords,
    ∀ param ∈ signature.params.take args.positional.length, param.name ≠ keyword.1
  once : (args.keywords.map Prod.fst).Nodup

/-- **The call is well formed**: apart from that, every parameter that is given no argument in
either way has a default. -/
structure Accepts (signature : Signature) (args : CallArgs τ) : Prop
    extends signature.Addresses args where
  complete : ∀ param ∈ signature.params.drop args.positional.length,
    (∀ keyword ∈ args.keywords, keyword.1 ≠ param.name) → param.default.isSome

/-- **Every parameter is bound, in order**, to what the call gives to it, or else to its default. -/
structure Binds (signature : Signature) (args : CallArgs τ) (bound : BoundArgs τ) : Prop where
  length : bound.values.length = signature.params.length
  value : ∀ place param, signature.params[place]? = some param →
    ∃ value, args.value? place param = some value ∧
      bound.values[place]? = some (param.name, value)

/-! ## Slots -/

/-- The slot filled from a table, if it is still open. -/
def Slot.give (table : List (String × Arg τ)) (slot : Slot τ) : Slot τ :=
  (slot.1, slot.2.or (namedArg? table slot.1.name))

/-- A slot is open for a name. -/
def OpenFor (slots : List (Slot τ)) (name : String) : Prop :=
  ∃ param, (param, none) ∈ slots ∧ param.name = name

section Slots

variable {slots filled : List (Slot τ)}

theorem map_give_names (table : List (String × Arg τ)) (slots : List (Slot τ)) :
    (slots.map (Slot.give table)).map (fun slot => slot.1.name) =
      slots.map fun slot => slot.1.name := by
  rw [List.map_map]
  rfl

/-- Slots are left as they are if the table has nothing for them. -/
theorem map_give_of_none {table : List (String × Arg τ)}
    (h : ∀ slot ∈ slots, namedArg? table slot.1.name = none) :
    slots.map (Slot.give table) = slots := by
  conv_rhs => rw [← List.map_id slots]
  apply List.map_congr_left
  intro slot hslot
  unfold Slot.give
  rw [h slot hslot, Option.or_none]
  rfl

/-- To fill slots from one table and then from another is to fill them from both. -/
theorem give_give (table other : List (String × Arg τ)) (slots : List (Slot τ)) :
    (slots.map (Slot.give table)).map (Slot.give other) = slots.map (Slot.give (table ++ other)) := by
  rw [List.map_map]
  apply List.map_congr_left
  intro slot _
  unfold Slot.give
  rw [Function.comp_apply, Option.or_assoc, namedArg?_append]

/-- What one keyword leaves open is what it does not name. -/
theorem openFor_give {name : String} {value : Arg τ} {other : String} :
    OpenFor (slots.map (Slot.give [(name, value)])) other ↔ OpenFor slots other ∧ name ≠ other := by
  unfold OpenFor
  constructor
  · rintro ⟨param, hmem, rfl⟩
    obtain ⟨slot, hslot, hgive⟩ := List.mem_map.mp hmem
    obtain ⟨rfl, hopen⟩ := Prod.mk.inj hgive
    rw [Option.or_eq_none_iff, namedArg?_singleton] at hopen
    refine ⟨⟨slot.1, ?_, rfl⟩, ?_⟩
    · rw [← hopen.1]
      exact hslot
    · intro hname
      rw [if_pos hname] at hopen
      cases hopen.2
  · rintro ⟨⟨param, hmem, rfl⟩, hname⟩
    refine ⟨param, List.mem_map.mpr ⟨(param, none), hmem, ?_⟩, rfl⟩
    unfold Slot.give
    rw [namedArg?_singleton, if_neg hname]
    rfl

/-- **A keyword is accepted exactly if a slot of its name is open**, and it fills that slot. -/
theorem fillKeyword_eq_ok {name : String} {value : Arg τ}
    (hnames : (slots.map fun slot => slot.1.name).Nodup) :
    fillKeyword name value slots = .ok filled ↔
      OpenFor slots name ∧ filled = slots.map (Slot.give [(name, value)]) := by
  induction slots generalizing filled with
  | nil => simp [fillKeyword, OpenFor]
  | cons slot slots ih =>
    obtain ⟨param, arg⟩ := slot
    rw [List.map_cons, List.nodup_cons] at hnames
    obtain ⟨hfresh, hrest⟩ := hnames
    unfold fillKeyword
    by_cases hname : param.name = name
    · subst hname
      -- No other slot has the name, and so none is filled.
      have hothers : ∀ other ∈ slots, other.1.name ≠ param.name :=
        fun other hother hsame => hfresh (List.mem_map.mpr ⟨other, hother, hsame⟩)
      rw [if_pos rfl]
      cases arg with
      | some arg =>
        refine iff_of_false (fun h => by cases h) ?_
        rintro ⟨⟨other, hmem, hother⟩, -⟩
        rcases List.mem_cons.mp hmem with hhead | htail
        · cases hhead
        · exact hothers _ htail hother
      | none =>
        have hkept : slots.map (Slot.give [(param.name, value)]) = slots := by
          refine map_give_of_none fun other hother => ?_
          rw [namedArg?_singleton, if_neg (Ne.symm (hothers other hother))]
        have hgive : Slot.give [(param.name, value)] (param, none) = (param, some value) := by
          unfold Slot.give
          rw [namedArg?_singleton, if_pos rfl]
          rfl
        rw [List.map_cons, hkept, hgive, Except.ok.injEq, eq_comm]
        exact (and_iff_right ⟨param, List.mem_cons_self, rfl⟩).symm
    · have hgive : Slot.give [(name, value)] (param, arg) = (param, arg) := by
        unfold Slot.give
        rw [namedArg?_singleton, if_neg (Ne.symm hname), Option.or_none]
      have hopen : OpenFor ((param, arg) :: slots) name ↔ OpenFor slots name := by
        constructor
        · rintro ⟨other, hmem, hother⟩
          rcases List.mem_cons.mp hmem with hhead | htail
          · exact (hname ((congrArg (fun slot => slot.1.name) hhead).symm.trans hother)).elim
          · exact ⟨other, htail, hother⟩
        · rintro ⟨other, hmem, hother⟩
          exact ⟨other, List.mem_cons_of_mem _ hmem, hother⟩
      rw [if_neg hname, bind_eq_ok, List.map_cons, hgive, hopen]
      simp only [ih hrest, Except.ok.injEq]
      constructor
      · rintro ⟨rest, ⟨hsome, rfl⟩, rfl⟩
        exact ⟨hsome, rfl⟩
      · rintro ⟨hsome, rfl⟩
        exact ⟨_, ⟨hsome, rfl⟩, rfl⟩

/-- **Keywords are accepted exactly if no two have the same name and a slot is open for each**, and
together they fill these slots. -/
theorem fillKeywords_eq_ok {keywords : List (String × Arg τ)}
    (hnames : (slots.map fun slot => slot.1.name).Nodup) :
    keywords.foldlM (fun slots keyword => fillKeyword keyword.1 keyword.2 slots) slots =
        .ok filled ↔
      (keywords.map Prod.fst).Nodup ∧ (∀ keyword ∈ keywords, OpenFor slots keyword.1) ∧
        filled = slots.map (Slot.give keywords) := by
  induction keywords generalizing slots with
  | nil =>
    rw [List.foldlM_nil, map_give_of_none fun _ _ => rfl]
    simp [pure, Except.pure, eq_comm]
  | cons keyword keywords ih =>
    obtain ⟨name, value⟩ := keyword
    have hnames' : ((slots.map (Slot.give [(name, value)])).map fun slot => slot.1.name).Nodup := by
      rw [map_give_names]
      exact hnames
    rw [List.foldlM_cons, bind_eq_ok]
    simp only [fillKeyword_eq_ok hnames]
    constructor
    · rintro ⟨next, ⟨hopen, rfl⟩, hrest⟩
      obtain ⟨honce, hothers, rfl⟩ := (ih hnames').mp hrest
      simp only [openFor_give] at hothers
      have hrest' := fun keyword hkeyword => (hothers keyword hkeyword).1
      refine ⟨?_, List.forall_mem_cons.mpr ⟨hopen, hrest'⟩, give_give _ _ _⟩
      rw [List.map_cons, List.nodup_cons]
      refine ⟨fun hmem => ?_, honce⟩
      obtain ⟨keyword, hkeyword, hname⟩ := List.mem_map.mp hmem
      exact (hothers keyword hkeyword).2 hname.symm
    · rintro ⟨honce, hopen, rfl⟩
      rw [List.map_cons, List.nodup_cons] at honce
      obtain ⟨hname, hothers⟩ := List.forall_mem_cons.mp hopen
      refine ⟨_, ⟨hname, rfl⟩, (ih hnames').mpr ⟨honce.2, fun keyword hkeyword => ?_, ?_⟩⟩
      · rw [openFor_give]
        exact ⟨hothers keyword hkeyword,
          fun hsame => honce.1 (List.mem_map.mpr ⟨keyword, hkeyword, hsame.symm⟩)⟩
      · rw [give_give, List.singleton_append]

/-- The parameters side by side with the positional arguments. -/
theorem getElem?_fillPositional (params : List Param) (args : List (Arg τ)) (place : Nat) :
    (fillPositional params args)[place]? = params[place]?.map fun param => (param, args[place]?) := by
  induction params generalizing args place with
  | nil => simp [fillPositional]
  | cons param params ih =>
    cases args with
    | nil => cases place <;> simp [fillPositional, ih]
    | cons arg args => cases place <;> simp [fillPositional, ih]

theorem fillPositional_names (params : List Param) (args : List (Arg τ)) :
    (fillPositional params args).map (fun slot => slot.1.name) = params.map Param.name := by
  apply List.ext_getElem?
  intro place
  rw [List.getElem?_map, getElem?_fillPositional, List.getElem?_map, Option.map_map]
  rfl

/-- The slots that are still open are those behind the positional arguments. -/
theorem openFor_fillPositional {params : List Param} {args : List (Arg τ)} {name : String} :
    OpenFor (fillPositional params args) name ↔
      ∃ param ∈ params.drop args.length, param.name = name := by
  unfold OpenFor
  refine exists_congr fun param => and_congr_left fun _ => ?_
  simp only [List.mem_iff_getElem?, getElem?_fillPositional, List.getElem?_drop,
    Option.map_eq_some_iff, Prod.mk.injEq]
  constructor
  · rintro ⟨place, _, hparam, rfl, hnone⟩
    rw [List.getElem?_eq_none_iff] at hnone
    exact ⟨place - args.length, by rwa [Nat.add_sub_cancel' hnone]⟩
  · rintro ⟨place, hparam⟩
    exact ⟨args.length + place, param, hparam, rfl, List.getElem?_eq_none (Nat.le_add_right _ _)⟩

/-- **A slot has a value exactly if it is filled or its parameter has a default.** -/
theorem slotValue_eq_ok {slot : Slot τ} {named : String × Arg τ} :
    slotValue slot = .ok named ↔
      ∃ value, slot.2.or (slot.1.default.map Default.toArg) = some value ∧
        named = (slot.1.name, value) := by
  obtain ⟨param, arg⟩ := slot
  unfold slotValue
  cases arg with
  | some arg => simp [eq_comm]
  | none => cases hdefault : param.default <;> simp [hdefault, eq_comm]

end Slots

/-! ## Binding -/

section Binding

variable {signature : Signature} {args : CallArgs τ} {bound : BoundArgs τ}

/-- Where no two parameters have the same name, a keyword names an open slot exactly if it names a
parameter, and none that is filled by position. -/
theorem openFor_keyword_iff (hnames : (signature.params.map Param.name).Nodup) {name : String} :
    OpenFor (fillPositional signature.params args.positional) name ↔
      (∃ param ∈ signature.params, param.name = name) ∧
        ∀ param ∈ signature.params.take args.positional.length, param.name ≠ name := by
  rw [openFor_fillPositional]
  have hsplit := List.take_append_drop args.positional.length signature.params
  constructor
  · rintro ⟨param, hparam, rfl⟩
    refine ⟨⟨param, List.mem_of_mem_drop hparam, rfl⟩, fun other hother hsame => ?_⟩
    rw [← hsplit, List.map_append, List.nodup_append] at hnames
    exact hnames.2.2 _ (List.mem_map_of_mem hother) _ (List.mem_map_of_mem hparam) hsame
  · rintro ⟨⟨param, hparam, rfl⟩, hfilled⟩
    rw [← hsplit, List.mem_append] at hparam
    exact ⟨param, hparam.resolve_left fun hfront => hfilled param hfront rfl, rfl⟩

/-- The slots of a call whose arguments are addressed hold what the call gives. -/
theorem getElem?_filled (place : Nat) :
    ((fillPositional signature.params args.positional).map (Slot.give args.keywords))[place]? =
      signature.params[place]?.map fun param => (param, args.given? place param) := by
  rw [List.getElem?_map, getElem?_fillPositional, Option.map_map]
  rfl

/-- The values of filled slots are those that the parameters are bound to. -/
theorem slotValues_eq_ok :
    ((fillPositional signature.params args.positional).map (Slot.give args.keywords)).mapM slotValue =
        .ok bound.values ↔ signature.Binds args bound := by
  have hlength : ((fillPositional signature.params args.positional).map
      (Slot.give args.keywords)).length = signature.params.length := by
    have hnames := congrArg List.length (fillPositional_names signature.params args.positional)
    rwa [List.length_map, List.length_map, ← List.length_map (Slot.give args.keywords)] at hnames
  rw [mapM_eq_ok]
  constructor
  · intro h
    refine ⟨h.length_eq.symm.trans hlength, fun place param hparam => ?_⟩
    have hslot := @getElem?_filled _ signature args place
    rw [hparam, Option.map_some] at hslot
    obtain ⟨hlt, hat⟩ := List.getElem?_eq_some_iff.mp hslot
    have hlt' : place < bound.values.length := Nat.lt_of_lt_of_eq hlt h.length_eq
    have hvalue := h.get hlt hlt'
    rw [List.get_eq_getElem, List.get_eq_getElem] at hvalue
    dsimp only at hvalue
    rw [hat, slotValue_eq_ok] at hvalue
    obtain ⟨value, hsome, hnamed⟩ := hvalue
    exact ⟨value, hsome, (List.getElem?_eq_getElem hlt').trans (congrArg some hnamed)⟩
  · intro h
    refine List.forall₂_iff_get.mpr ⟨hlength.trans h.length.symm, fun place hlt hlt' => ?_⟩
    rw [List.get_eq_getElem, List.get_eq_getElem, slotValue_eq_ok]
    have hparam := List.getElem?_eq_getElem (hlength ▸ hlt)
    have hslot := @getElem?_filled _ signature args place
    rw [hparam, Option.map_some, List.getElem?_eq_getElem hlt, Option.some.injEq] at hslot
    obtain ⟨value, hsome, hnamed⟩ := h.value place _ hparam
    rw [List.getElem?_eq_getElem hlt', Option.some.injEq] at hnamed
    dsimp only
    rw [hslot, hnamed]
    exact ⟨value, hsome, rfl⟩

/-- **A call is bound exactly if every argument is for a parameter of its own and every parameter has
a value.** -/
theorem bind_eq_ok_iff (hnames : (signature.params.map Param.name).Nodup) :
    signature.bind args = .ok bound ↔ signature.Addresses args ∧ signature.Binds args bound := by
  have hslots : ((fillPositional signature.params args.positional).map
      fun slot => slot.1.name).Nodup := by
    rw [fillPositional_names]
    exact hnames
  unfold bind
  by_cases htoo : signature.params.length < args.positional.length
  · rw [if_pos htoo]
    refine iff_of_false (fun h => by cases h) fun h => ?_
    exact Nat.not_lt.mpr h.1.positional_le htoo
  · rw [if_neg htoo]
    show (List.foldlM _ _ _ >>= fun slots => _) = _ ↔ _
    rw [bind_eq_ok]
    simp only [fillKeywords_eq_ok hslots, openFor_keyword_iff hnames]
    constructor
    · rintro ⟨slots, ⟨honce, hopen, rfl⟩, hrest⟩
      obtain ⟨values, hvalues, hbound⟩ := bind_eq_ok.mp hrest
      obtain rfl := Except.ok.inj hbound
      exact ⟨⟨Nat.not_lt.mp htoo, fun keyword hkeyword => (hopen keyword hkeyword).1,
        fun keyword hkeyword => (hopen keyword hkeyword).2, honce⟩, slotValues_eq_ok.mp hvalues⟩
    · rintro ⟨haddresses, hbinds⟩
      refine ⟨_, ⟨haddresses.once, fun keyword hkeyword => ?_, rfl⟩, ?_⟩
      · exact ⟨haddresses.known keyword hkeyword, haddresses.unfilled keyword hkeyword⟩
      · rw [slotValues_eq_ok.mpr hbinds]
        rfl

/-- **All parameters have values exactly if each that is given none has a default.** -/
theorem exists_binds :
    (∃ bound, signature.Binds args bound) ↔
      ∀ param ∈ signature.params.drop args.positional.length,
        (∀ keyword ∈ args.keywords, keyword.1 ≠ param.name) → param.default.isSome := by
  constructor
  · rintro ⟨bound, hbinds⟩ param hparam hkeywords
    obtain ⟨place, hplace⟩ := List.mem_iff_getElem?.mp hparam
    rw [List.getElem?_drop] at hplace
    obtain ⟨value, hvalue, -⟩ := hbinds.value _ param hplace
    unfold CallArgs.value? CallArgs.given? at hvalue
    rw [List.getElem?_eq_none (Nat.le_add_right _ _), namedArg?_eq_none.mpr hkeywords,
      Option.none_or, Option.none_or] at hvalue
    rw [← @Option.isSome_map _ _ (@Default.toArg τ), hvalue]
    rfl
  · intro hcomplete
    have hslots : ∃ values, ((fillPositional signature.params args.positional).map
        (Slot.give args.keywords)).mapM slotValue = .ok values := by
      refine mapM_answers.mpr fun slot hslot => ?_
      obtain ⟨place, hplace⟩ := List.mem_iff_getElem?.mp hslot
      rw [getElem?_filled, Option.map_eq_some_iff] at hplace
      obtain ⟨param, hparam, rfl⟩ := hplace
      have hvalue : ((args.given? place param).or (param.default.map Default.toArg)).isSome := by
        cases hgiven : args.given? place param with
        | some value => rfl
        | none =>
          obtain ⟨hposition, hkeyword⟩ := Option.or_eq_none_iff.mp hgiven
          rw [List.getElem?_eq_none_iff] at hposition
          have hleft : param ∈ signature.params.drop args.positional.length := by
            refine List.mem_iff_getElem?.mpr ⟨place - args.positional.length, ?_⟩
            rwa [List.getElem?_drop, Nat.add_sub_cancel' hposition]
          rw [Option.none_or, Option.isSome_map]
          exact hcomplete param hleft (namedArg?_eq_none.mp hkeyword)
      obtain ⟨value, hvalue⟩ := Option.isSome_iff_exists.mp hvalue
      exact ⟨_, slotValue_eq_ok.mpr ⟨value, hvalue, rfl⟩⟩
    obtain ⟨values, hvalues⟩ := hslots
    exact ⟨{ values }, slotValues_eq_ok.mp hvalues⟩

/-- A bound argument is found by the name of its parameter. -/
theorem Binds.arg (h : signature.Binds args bound) (hnames : (signature.params.map Param.name).Nodup)
    {place : Nat} {param : Param} {value : Arg τ} (hparam : signature.params[place]? = some param)
    (hvalue : args.value? place param = some value) : bound.arg param.name = .ok value := by
  have hkeys : bound.values.map Prod.fst = signature.params.map Param.name := by
    apply List.ext_getElem?
    intro place
    rw [List.getElem?_map, List.getElem?_map]
    cases hother : signature.params[place]? with
    | none =>
      rw [List.getElem?_eq_none_iff, ← h.length] at hother
      rw [List.getElem?_eq_none hother]
      rfl
    | some other =>
      obtain ⟨_, -, hnamed⟩ := h.value place other hother
      rw [hnamed]
      rfl
  obtain ⟨value', hvalue', hnamed⟩ := h.value place param hparam
  obtain rfl : value = value' := Option.some.inj (hvalue.symm.trans hvalue')
  have hfound := (find?_key_eq_some (hkeys ▸ hnames)).mpr (List.mem_of_getElem? hnamed)
  obtain ⟨found, hfind, rfl⟩ := Option.map_eq_some_iff.mp hfound
  unfold BoundArgs.arg
  rw [hfind]

/-! ## How arguments are passed -/

/-- The arguments of a call by name, where a positional one has the name of the parameter in its
place. -/
def table (signature : Signature) (args : CallArgs τ) : List (String × Arg τ) :=
  (signature.params.map Param.name).zip args.positional ++ args.keywords

theorem table_keys (signature : Signature) (args : CallArgs τ) :
    (signature.table args).map Prod.fst =
      (signature.params.map Param.name).take args.positional.length ++
        args.keywords.map Prod.fst := by
  unfold table
  rw [List.map_append, keys_zip]

/-- What a call gives to a parameter is what its table has for the name. -/
theorem given?_eq (hnames : (signature.params.map Param.name).Nodup) {place : Nat} {param : Param}
    (hparam : signature.params[place]? = some param) :
    args.given? place param = namedArg? (signature.table args) param.name := by
  have hname : (signature.params.map Param.name)[place]? = some param.name := by
    rw [List.getElem?_map, hparam]
    rfl
  unfold CallArgs.given? table
  rw [namedArg?_append, namedArg?_zip hnames _ hname]

/-- **Arguments are addressed exactly if their names are those of parameters, each of them once.** -/
theorem addresses_iff (hnames : (signature.params.map Param.name).Nodup)
    (hle : args.positional.length ≤ signature.params.length) :
    signature.Addresses args ↔
      ((signature.table args).map Prod.fst).Nodup ∧
        ∀ name ∈ (signature.table args).map Prod.fst, name ∈ signature.params.map Param.name := by
  have hfront : ((signature.params.map Param.name).take args.positional.length).Nodup :=
    hnames.sublist (List.take_sublist _ _)
  rw [table_keys, List.nodup_append, and_iff_right hfront, ← List.map_take]
  constructor
  · intro h
    refine ⟨⟨h.once, fun name hname other hother => ?_⟩, fun name hname => ?_⟩
    · obtain ⟨param, hparam, rfl⟩ := List.mem_map.mp hname
      obtain ⟨keyword, hkeyword, rfl⟩ := List.mem_map.mp hother
      exact h.unfilled keyword hkeyword param hparam
    · rcases List.mem_append.mp hname with hfront | hback
      · obtain ⟨param, hparam, rfl⟩ := List.mem_map.mp hfront
        exact List.mem_map_of_mem (List.mem_of_mem_take hparam)
      · obtain ⟨keyword, hkeyword, rfl⟩ := List.mem_map.mp hback
        exact List.mem_map.mpr (h.known keyword hkeyword)
  · rintro ⟨⟨honce, hunfilled⟩, hknown⟩
    refine ⟨hle, fun keyword hkeyword => ?_, fun keyword hkeyword param hparam => ?_, honce⟩
    · exact List.mem_map.mp (hknown _ (List.mem_append_right _ (List.mem_map_of_mem hkeyword)))
    · exact hunfilled _ (List.mem_map_of_mem hparam) _ (List.mem_map_of_mem hkeyword)

/-- **Calls with the same arguments by name, in whatever order, are bound alike.** -/
theorem bind_eq_ok_of_perm (hnames : (signature.params.map Param.name).Nodup) {other : CallArgs τ}
    (hle : args.positional.length ≤ signature.params.length)
    (hle' : other.positional.length ≤ signature.params.length)
    (hperm : (signature.table args).Perm (signature.table other)) :
    signature.bind args = .ok bound ↔ signature.bind other = .ok bound := by
  have haddresses : signature.Addresses args ↔ signature.Addresses other := by
    have hkeys := hperm.map Prod.fst
    rw [addresses_iff hnames hle, addresses_iff hnames hle', hkeys.nodup_iff]
    simp only [hkeys.mem_iff]
  rw [bind_eq_ok_iff hnames, bind_eq_ok_iff hnames, ← haddresses]
  refine and_congr_right fun haddressed => ?_
  have honce := ((addresses_iff hnames hle).mp haddressed).1
  have hvalue : ∀ place param, signature.params[place]? = some param →
      args.value? place param = other.value? place param := by
    intro place param hparam
    have hgiven : args.given? place param = other.given? place param := by
      rw [given?_eq hnames hparam, given?_eq hnames hparam]
      exact find?_key_perm hperm honce param.name
    unfold CallArgs.value?
    rw [hgiven]
  constructor
  · intro h
    refine ⟨h.length, fun place param hparam => ?_⟩
    rw [← hvalue place param hparam]
    exact h.value place param hparam
  · intro h
    refine ⟨h.length, fun place param hparam => ?_⟩
    rw [hvalue place param hparam]
    exact h.value place param hparam

/-- The last positional arguments may be given by name instead. -/
theorem table_moved (signature : Signature) {front back : List (Arg τ)}
    {keywords moved : List (String × Arg τ)} (hle : front.length ≤ signature.params.length)
    (hmoved : moved.Perm
      (((signature.params.drop front.length).map Param.name).zip back ++ keywords)) :
    (signature.table { positional := front ++ back, keywords }).Perm
      (signature.table { positional := front, keywords := moved }) := by
  unfold table
  dsimp only
  have hlength : ((signature.params.map Param.name).take front.length).length = front.length := by
    rw [List.length_take, List.length_map]
    omega
  have hzip : ∀ rest : List (Arg τ), (signature.params.map Param.name).zip (front ++ rest) =
      ((signature.params.map Param.name).take front.length).zip front ++
        ((signature.params.drop front.length).map Param.name).zip rest := by
    intro rest
    rw [List.map_drop, ← List.zip_append hlength, List.take_append_drop]
  have hfront := hzip []
  rw [List.append_nil, List.zip_nil_right, List.append_nil] at hfront
  rw [hzip, hfront, List.append_assoc]
  exact hmoved.symm.append_left _

end Binding

/-- **Binding accepts exactly the well formed calls and does not see how arguments are passed.**
Where no two parameters have the same name, a call is bound exactly if every argument is for a
parameter of its own and every parameter that is left over has a default; each parameter is then
bound to the positional argument in its place, else to the keyword of its name, else to its default,
and is found by its name.  To give any of the last positional arguments by name instead, and the
keywords in any order, binds the same. -/
theorem bind_accepts_exactly {signature : Signature}
    (hnames : (signature.params.map Param.name).Nodup) (args : CallArgs τ) :
    ((∃ bound, signature.bind args = .ok bound) ↔ signature.Accepts args) ∧
    (∀ bound, signature.bind args = .ok bound →
      signature.Binds args bound ∧
        ∀ place param value, signature.params[place]? = some param →
          args.value? place param = some value → bound.arg param.name = .ok value) ∧
    (args.positional.length ≤ signature.params.length →
      ∀ front back keywords, args.positional = front ++ back →
        keywords.Perm
          (((signature.params.drop front.length).map Param.name).zip back ++ args.keywords) →
        ∀ bound, signature.bind args = .ok bound ↔
          signature.bind { positional := front, keywords } = .ok bound) := by
  refine ⟨?_, fun bound h => ?_, fun hle front back keywords hsplit hmoved bound => ?_⟩
  · simp only [bind_eq_ok_iff hnames, exists_and_left, exists_binds]
    exact ⟨fun h => ⟨h.1, h.2⟩, fun h => ⟨h.toAddresses, h.complete⟩⟩
  · obtain ⟨-, hbinds⟩ := (bind_eq_ok_iff hnames).mp h
    exact ⟨hbinds, fun place param value => hbinds.arg hnames⟩
  · obtain ⟨positional, given⟩ := args
    obtain rfl : positional = front ++ back := hsplit
    have hfront : front.length ≤ signature.params.length := by
      rw [List.length_append] at hle
      omega
    exact bind_eq_ok_of_perm hnames hle hfront (table_moved signature hfront hmoved)

/-- A slice that is given its step by position, and the same one with all but its tensor given by
name. -/
theorem bind_accepts_exactly_slice :
    let signature : Signature := {
      params := [⟨"self", .tensor, none⟩, ⟨"dim", .int, some (.int 0)⟩,
        ⟨"start", .optInt, some .none⟩, ⟨"step", .int, some (.int 1)⟩]
      returns := 1 }
    let args : CallArgs Unit := {
      positional := [.tensor (), .int 1]
      keywords := [("step", .int 2)] }
    (signature.params.map Param.name).Nodup ∧ signature.Accepts args ∧
      signature.bind { positional := [.tensor ()], keywords := [("step", .int 2), ("dim", .int 1)] } =
        .ok { values := [
          ("self", .tensor ()), ("dim", .int 1), ("start", .none), ("step", .int 2)] } := by
  intro signature args
  have hnames : (signature.params.map Param.name).Nodup := by decide
  obtain ⟨haccepts, -, hmoved⟩ := bind_accepts_exactly hnames args
  refine ⟨hnames, haccepts.mp ⟨_, rfl⟩, ?_⟩
  exact (hmoved (by decide) [.tensor ()] [.int 1] _ rfl (List.Perm.swap _ _ _) _).mp rfl

end Signature

end OpShape
