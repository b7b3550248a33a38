/-
# `OpShape.Sizes` — the sizes of a tensor's dimensions.

A list of sizes, the slowest dimension first.  Sizes are natural numbers; where one is compared with
a parameter, which may be negative, it is taken as a signed word of sixty-four bits.
-/
import OpShape.Text.Split
import OpShape.Decimal.Integer

namespace OpShape

/-- The sizes of the dimensions of a tensor, the slowest one first. -/
abbrev Sizes := List Nat

/-- The number of elements of a tensor with these sizes. -/
def elementCount : Sizes → Nat
  | [] => 1
  | size :: rest => size * elementCount rest

/-- The sum of some sizes. -/
def totalSize : Sizes → Nat
  | [] => 0
  | size :: rest => size + totalSize rest

/-- A size as a signed word. -/
def signed (size : Nat) : Int :=
  (size : Int).bmod (Nat.pow 2 64)

/-- An integer as a signed word: beyond the greatest word the least one follows.  Sums and products
that are not kept to words by name are those of the integers themselves. -/
def toWord (value : Int) : Int :=
  value.bmod (Nat.pow 2 64)

/-- The size that a signed word stands for; the negative ones stand for sizes from 2⁶³ on. -/
def wordSize (word : Int) : Nat :=
  (word % (Nat.pow 2 64 : Nat)).toNat

/-- The sizes in square brackets. -/
def sizesText (sizes : Sizes) : String :=
  Text.bracketed (sizes.map Decimal.natText)

@[simp] theorem elementCount_nil : elementCount [] = 1 := rfl

@[simp] theorem elementCount_cons (size : Nat) (rest : Sizes) :
    elementCount (size :: rest) = size * elementCount rest := rfl

@[simp] theorem totalSize_nil : totalSize [] = 0 := rfl

@[simp] theorem totalSize_cons (size : Nat) (rest : Sizes) :
    totalSize (size :: rest) = size + totalSize rest := rfl

theorem elementCount_append (front back : Sizes) :
    elementCount (front ++ back) = elementCount front * elementCount back := by
  induction front with
  | nil => simp
  | cons size rest ih => simp [ih, Nat.mul_assoc]

theorem elementCount_eq_zero {sizes : Sizes} : elementCount sizes = 0 ↔ 0 ∈ sizes := by
  induction sizes with
  | nil => simp
  | cons size rest ih => rw [elementCount_cons, Nat.mul_eq_zero, ih, List.mem_cons, eq_comm]

end OpShape
