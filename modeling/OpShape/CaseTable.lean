/-
# `OpShape.CaseTable` — a test over a table of cases.

Every case is tried, also after one that failed, and a report names all that failed.
-/
import OpShape.Text.Split
import OpShape.Decimal.Integer

namespace OpShape.CaseTable

variable {α : Type}

/-- The cases that fail a test, in order. -/
def failing (cases : List α) (passes : α → Bool) : List α :=
  cases.filter fun c => !passes c

/-- What is said about failing cases: how many there are among how many, and which. -/
def report (say : α → String) (failing : List α) (total : Nat) : String :=
  Decimal.natText failing.length ++ " of " ++ Decimal.natText total ++ " test cases failed: " ++
    Text.bracketed (failing.map say)

/-- Try every case. -/
def testEach (say : α → String) (cases : List α) (passes : α → Bool) : Except String Unit :=
  match failing cases passes with
  | [] => .ok ()
  | failures => .error (report say failures cases.length)

end OpShape.CaseTable
