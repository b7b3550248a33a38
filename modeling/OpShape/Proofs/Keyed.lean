/-
# `OpShape.Proofs.Keyed` — tables that are searched by a key.

A search stops at the first entry of its key.  Where no key comes twice, it finds just the entries
of the table.
-/
import Mathlib.Data.List.Nodup

namespace OpShape

variable {κ α : Type} [DecidableEq κ]

/-- **A table without a repeated key gives for a key what it has for it.** -/
theorem find?_key_eq_some {table : List (κ × α)} (h : (table.map Prod.fst).Nodup) {key : κ}
    {value : α} :
    (table.find? fun entry => entry.1 = key).map Prod.snd = some value ↔ (key, value) ∈ table := by
  constructor
  · intro hfound
    obtain ⟨⟨other, found⟩, hentry, rfl⟩ := Option.map_eq_some_iff.mp hfound
    obtain rfl : other = key := by simpa using List.find?_some hentry
    exact List.mem_of_find?_eq_some hentry
  · intro hentry
    have hsome : (table.find? fun entry => entry.1 = key).isSome := by
      rw [List.find?_isSome]
      exact ⟨(key, value), hentry, by simp⟩
    obtain ⟨found, hfound⟩ := Option.isSome_iff_exists.mp hsome
    have hkey : found.1 = key := by simpa using List.find?_some hfound
    have hsame : found = (key, value) :=
      List.inj_on_of_nodup_map h (List.mem_of_find?_eq_some hfound) hentry hkey
    rw [hfound, hsame, Option.map_some]

/-- The order of a table without a repeated key does not matter. -/
theorem find?_key_perm {table other : List (κ × α)} (hperm : table.Perm other)
    (h : (table.map Prod.fst).Nodup) (key : κ) :
    (table.find? fun entry => entry.1 = key).map Prod.snd =
      (other.find? fun entry => entry.1 = key).map Prod.snd := by
  have h' : (other.map Prod.fst).Nodup := (hperm.map Prod.fst).nodup_iff.mp h
  apply Option.ext
  intro value
  rw [find?_key_eq_some h, find?_key_eq_some h', hperm.mem_iff]

/-- No key has more than one entry. -/
theorem length_filter_key_le {table : List (κ × α)} (h : (table.map Prod.fst).Nodup) (key : κ) :
    (table.filter fun entry => entry.1 = key).length ≤ 1 := by
  have hcount := List.nodup_iff_count_le_one.mp h key
  rw [List.count, List.countP_map, List.countP_eq_length_filter] at hcount
  exact hcount

end OpShape
