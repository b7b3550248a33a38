/-
# `OpShape.Fault` — how a computation ends without an answer.

Two endings are kept apart throughout the library.  An *error* is an answer of the domain: the
arguments were looked at and refused, for a reason that has a type of its own.  A *fault* is a
breakdown: a position outside a list, a division by zero, data that do not fill their shape, or
whatever user code throws.  `Checked ε α` carries both beside the value.

The operations on positions and lengths below are the only way in which this library reads, removes
or inserts by number.  Each answers with a fault where it is not defined, and each has a lemma that
says when it is defined, so that "this never breaks down" is a statement about `Checked` values.
-/

namespace OpShape

/-! ## Endings -/

/-- What broke a computation down. -/
inductive Fault where
  /-- A position at or past the end of a sequence. -/
  | outOfBounds (index size : Nat)
  /-- A length was reduced by more than it holds. -/
  | negativeLength (length removed : Nat)
  | divisionByZero
  /-- A range whose lower bound lies above its upper bound, or is not a number. -/
  | emptyRange
  /-- The number of elements differs from what the sizes of a tensor ask for. -/
  | dataLength (expected actual : Nat)
  /-- Thrown by user code, with a text. -/
  | thrown (text : String)
  /-- Thrown by user code, with nothing that can be read. -/
  | silent
  deriving DecidableEq, Repr

/-- The ways a computation ends without a value: a refusal of the domain, or a breakdown. -/
inductive Failure (ε : Type) where
  | error (reason : ε)
  | fault (cause : Fault)
  deriving DecidableEq, Repr

/-- A computation that answers, refuses or breaks down. -/
abbrev Checked (ε α : Type) := Except (Failure ε) α

/-- What is said about a fault in a report.  Only text that was thrown on purpose is repeated. -/
def Fault.message : Fault → String
  | .outOfBounds index size =>
    "panic: position " ++ toString index ++ " in a sequence of " ++ toString size
  | .negativeLength length removed =>
    "panic: length " ++ toString length ++ " reduced by " ++ toString removed
  | .divisionByZero => "panic: division by zero"
  | .emptyRange => "panic: empty range"
  | .dataLength expected actual =>
    "panic: " ++ toString actual ++ " elements for a shape of " ++ toString expected
  | .thrown text => "panic: " ++ text
  | .silent => "panic"

namespace Failure

/-- Carry the reason of a refusal over to another type of reasons; a fault stays what it is. -/
def mapReason {ε δ : Type} (f : ε → δ) : Failure ε → Failure δ
  | error reason => error (f reason)
  | fault cause => fault cause

/-- One line for a report: the reason in the words of its domain, or the fault. -/
def message {ε : Type} (say : ε → String) : Failure ε → String
  | error reason => say reason
  | fault cause => cause.message

end Failure

namespace Checked

variable {ε δ α β : Type}

/-- Refuse for a reason of the domain. -/
def refuse (reason : ε) : Checked ε α :=
  .error (.error reason)

/-- Break down. -/
def breakDown (cause : Fault) : Checked ε α :=
  .error (.fault cause)

/-- Refuse unless `condition` holds. -/
def require (condition : Bool) (reason : ε) : Checked ε Unit :=
  if condition then .ok () else refuse reason

/-- Let a plain result refuse under a wider type of reasons. -/
def ofExcept (wrap : δ → ε) : Except δ α → Checked ε α
  | .ok value => .ok value
  | .error reason => refuse (wrap reason)

@[simp] theorem require_true (reason : ε) : require true reason = .ok () := rfl

@[simp] theorem require_false (reason : ε) : require false reason = refuse reason := rfl

/-! ## Positions -/

/-- The entry at a position. -/
def get (entries : List α) (index : Nat) : Checked ε α :=
  match entries[index]? with
  | some entry => .ok entry
  | none => breakDown (.outOfBounds index entries.length)

/-- The entry of an array at a position. -/
def fetch (entries : Array α) (index : Nat) : Checked ε α :=
  if h : index < entries.size then .ok entries[index]
  else breakDown (.outOfBounds index entries.size)

/-- Put another entry at a position that is in use. -/
def set (entries : List α) (index : Nat) (entry : α) : Checked ε (List α) :=
  if index < entries.length then .ok (entries.set index entry)
  else breakDown (.outOfBounds index entries.length)

/-- Put another entry of an array at a position that is in use. -/
def store (entries : Array α) (index : Nat) (entry : α) : Checked ε (Array α) :=
  if h : index < entries.size then .ok (entries.set index entry)
  else breakDown (.outOfBounds index entries.size)

/-- Take the entry at a position out. -/
def eraseIdx (entries : List α) (index : Nat) : Checked ε (List α) :=
  if index < entries.length then .ok (entries.eraseIdx index)
  else breakDown (.outOfBounds index entries.length)

/-- Put an entry in front of a position; the position past the end appends it. -/
def insertIdx (entries : List α) (index : Nat) (entry : α) : Checked ε (List α) :=
  if index ≤ entries.length then .ok (entries.insertIdx index entry)
  else breakDown (.outOfBounds index entries.length)

/-- The entries from `start` up to but not including `stop`. -/
def slice (entries : List α) (start stop : Nat) : Checked ε (List α) :=
  if start ≤ stop ∧ stop ≤ entries.length then .ok ((entries.take stop).drop start)
  else breakDown (.outOfBounds stop entries.length)

/-- The entries of an array from `start` up to but not including `stop`. -/
def window (entries : Array α) (start stop : Nat) : Checked ε (Array α) :=
  if start ≤ stop ∧ stop ≤ entries.size then .ok (entries.extract start stop)
  else breakDown (.outOfBounds stop entries.size)

theorem get_of_lt {entries : List α} {index : Nat} (h : index < entries.length) :
    (get entries index : Checked ε α) = .ok entries[index] := by
  simp [get, List.getElem?_eq_getElem h]

theorem fetch_of_lt {entries : Array α} {index : Nat} (h : index < entries.size) :
    (fetch entries index : Checked ε α) = .ok entries[index] := by
  simp [fetch, h]

theorem set_of_lt {entries : List α} {index : Nat} (h : index < entries.length) (entry : α) :
    (set entries index entry : Checked ε (List α)) = .ok (entries.set index entry) := by
  simp [set, h]

theorem store_of_lt {entries : Array α} {index : Nat} (h : index < entries.size) (entry : α) :
    (store entries index entry : Checked ε (Array α)) = .ok (entries.set index entry) := by
  simp [store, h]

theorem eraseIdx_of_lt {entries : List α} {index : Nat} (h : index < entries.length) :
    (eraseIdx entries index : Checked ε (List α)) = .ok (entries.eraseIdx index) := by
  simp [eraseIdx, h]

theorem insertIdx_of_le {entries : List α} {index : Nat} (h : index ≤ entries.length)
    (entry : α) :
    (insertIdx entries index entry : Checked ε (List α)) = .ok (entries.insertIdx index entry) := by
  simp [insertIdx, h]

theorem slice_of_le {entries : List α} {start stop : Nat} (h : start ≤ stop)
    (h' : stop ≤ entries.length) :
    (slice entries start stop : Checked ε (List α)) = .ok ((entries.take stop).drop start) := by
  simp [slice, h, h']

theorem window_of_le {entries : Array α} {start stop : Nat} (h : start ≤ stop)
    (h' : stop ≤ entries.size) :
    (window entries start stop : Checked ε (Array α)) = .ok (entries.extract start stop) := by
  simp [window, h, h']

/-! ## Lengths and quotients -/

/-- What is left of a length. -/
def sub (length removed : Nat) : Checked ε Nat :=
  if removed ≤ length then .ok (length - removed) else breakDown (.negativeLength length removed)

/-- The quotient of two lengths, rounded down. -/
def div (length parts : Nat) : Checked ε Nat :=
  if parts = 0 then breakDown .divisionByZero else .ok (length / parts)

/-- What is left over by `div`. -/
def mod (length parts : Nat) : Checked ε Nat :=
  if parts = 0 then breakDown .divisionByZero else .ok (length % parts)

/-- The quotient of two integers whose remainder is never negative. -/
def ediv (dividend divisor : Int) : Checked ε Int :=
  if divisor = 0 then breakDown .divisionByZero else .ok (dividend / divisor)

/-- The quotient of two integers, rounded toward zero. -/
def tdiv (dividend divisor : Int) : Checked ε Int :=
  if divisor = 0 then breakDown .divisionByZero else .ok (dividend.tdiv divisor)

/-- The nearest integer inside `[low, high]`. -/
def clamp (low high value : Int) : Checked ε Int :=
  if low ≤ high then .ok (max low (min high value)) else breakDown .emptyRange

theorem sub_of_le {length removed : Nat} (h : removed ≤ length) :
    (sub length removed : Checked ε Nat) = .ok (length - removed) := by
  simp [sub, h]

theorem div_of_ne_zero {parts : Nat} (h : parts ≠ 0) (length : Nat) :
    (div length parts : Checked ε Nat) = .ok (length / parts) := by
  simp [div, h]

theorem mod_of_ne_zero {parts : Nat} (h : parts ≠ 0) (length : Nat) :
    (mod length parts : Checked ε Nat) = .ok (length % parts) := by
  simp [mod, h]

theorem ediv_of_ne_zero {divisor : Int} (h : divisor ≠ 0) (dividend : Int) :
    (ediv dividend divisor : Checked ε Int) = .ok (dividend / divisor) := by
  simp [ediv, h]

theorem tdiv_of_ne_zero {divisor : Int} (h : divisor ≠ 0) (dividend : Int) :
    (tdiv dividend divisor : Checked ε Int) = .ok (dividend.tdiv divisor) := by
  simp [tdiv, h]

theorem clamp_of_le {low high : Int} (h : low ≤ high) (value : Int) :
    (clamp low high value : Checked ε Int) = .ok (max low (min high value)) := by
  simp [clamp, h]

end Checked

end OpShape
