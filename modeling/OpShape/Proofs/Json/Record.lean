/-
# `OpShape.Proofs.Json.Record` — a value is recognised as what it was made from.

Lists, optional values and records are made from values of other kinds.  Each of them is recognised
if its parts are, and gives the parts back.
-/
import OpShape.Json.Basic
import OpShape.Proofs.Keyed

namespace OpShape.Json.Value

variable {α : Type} {write : α → Value} {read : Value → Option α}

@[simp] theorem text?_ofText (text : String) : (ofText text).text? = some text :=
  textOf?_piecesOf text

@[simp] theorem bool?_bool (value : Bool) : (bool value).bool? = some value := rfl

theorem below?_natural {bound n : Nat} (h : n < bound) : (natural n).below? bound = some n :=
  if_pos h

theorem mapM_map_eq_some {β : Type} {write : α → β} {read : β → Option α} {xs : List α}
    (h : ∀ x ∈ xs, read (write x) = some x) : (xs.map write).mapM read = some xs := by
  induction xs with
  | nil => rfl
  | cons x xs ih =>
    obtain ⟨hx, hxs⟩ := List.forall_mem_cons.mp h
    rw [List.map_cons, List.mapM_cons, hx, ih hxs]
    rfl

/-- **A list is recognised if its items are.** -/
theorem list?_array_map {xs : List α} (h : ∀ x ∈ xs, read (write x) = some x) :
    (array (xs.map write)).list? read = some xs :=
  mapM_map_eq_some h

/-- **An optional value is recognised if it is**, as long as no value is written as nothing. -/
theorem option?_ofOption {x : Option α} (hnull : ∀ y, write y ≠ null)
    (h : ∀ y ∈ x, read (write y) = some y) : (ofOption write x).option? read = some x := by
  cases x with
  | none => rfl
  | some y =>
    have hsome : (write y).option? read = (read (write y)).map some := by
      unfold option?
      split
      · next heq => exact absurd heq (hnull y)
      · rfl
    rw [ofOption, hsome, h y rfl, Option.map_some]

/-- **A record is recognised by the names of its members**, if no name comes twice. -/
theorem record?_ofMembers {members : List (String × Value)} (h : (members.map Prod.fst).Nodup) :
    (ofMembers members).record? (members.map Prod.fst) =
      some (members.map fun member => some member.2) := by
  have hnames : (members.map fun member => (piecesOf member.1, member.2)).mapM
      (fun member => (textOf? member.1).map fun name => (name, member.2)) = some members :=
    mapM_map_eq_some fun member _ => by rw [textOf?_piecesOf, Option.map_some]
  have honce : ((members.map Prod.fst).any fun name =>
      1 < (members.filter fun member => member.1 = name).length) = false := by
    rw [List.any_eq_false]
    intro name _
    simpa using length_filter_key_le h name
  have hvalues : ((members.map Prod.fst).map fun name =>
        (members.find? fun member => member.1 = name).map Prod.snd) =
      members.map fun member => some member.2 := by
    rw [List.map_map]
    exact List.map_congr_left fun member hmember => (find?_key_eq_some h).mpr hmember
  simp only [ofMembers, record?, hnames, Option.bind_eq_bind, Option.bind_some, honce, hvalues]
  rfl

end OpShape.Json.Value
