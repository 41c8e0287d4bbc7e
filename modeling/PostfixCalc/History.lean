import PostfixCalc.Binary64.Basic
import PostfixCalc.Text.Blank

/-!
# The history of calculations

A history keeps the records of the most recent calculations, newest first, up
to its cap; older ones fall off the end.  When a record was made is of a type of
the caller's choice, and the time comes in with the record.
-/

namespace PostfixCalc

/-- A calculation that had a value. -/
structure Record (τ : Type) where
  expression : String
  result : Binary64
  time : τ
  deriving DecidableEq

/-- How the use of a history fails. -/
inductive HistoryError where
  /-- There is no record of this number, counted from one. -/
  | noEntry (number : Int)
  /-- There is no record at this index. -/
  | outOfRange
  /-- The cap is below zero. -/
  | negativeCap
  deriving DecidableEq, Repr

def HistoryError.message : HistoryError → String
  | .noEntry number => s!"No history entry {number}"
  | .outOfRange => "deque index out of range"
  | .negativeCap => "maxlen must be non-negative"

/-- The records of the most recent calculations, newest first. -/
structure History (τ : Type) where
  cap : Nat
  records : List (Record τ)
  length_le : records.length ≤ cap

namespace History

variable {τ : Type}

/-- The cap of a history for which none is asked. -/
def defaultCap : Nat :=
  10

/-- A history without records. -/
def empty (cap : Nat) : History τ where
  cap := cap
  records := []
  length_le := Nat.zero_le cap

/-- A history without records and with the cap that is asked for. -/
def ofCap? (cap : Option Int) : Except HistoryError (History τ) :=
  match cap with
  | none => .ok (empty defaultCap)
  | some n => if n < 0 then .error .negativeCap else .ok (empty n.toNat)

instance : Inhabited (History τ) := ⟨empty defaultCap⟩

/-- The number of records. -/
def size (h : History τ) : Nat :=
  h.records.length

/-- Put a record in front, letting go of the oldest one beyond the cap. -/
def insert (h : History τ) (r : Record τ) : History τ where
  cap := h.cap
  records := (r :: h.records).take h.cap
  length_le := List.length_take_le _ _

/-- The record of a calculation; the expression is kept without the blanks at
its ends. -/
def recordOf (expression : String) (result : Binary64) (time : τ) : Record τ where
  expression := Text.trim expression
  result := result
  time := time

/-- Remember a calculation. -/
def add (h : History τ) (expression : String) (result : Binary64) (time : τ) : History τ :=
  h.insert (recordOf expression result time)

/-- Forget all records. -/
def clear (h : History τ) : History τ :=
  empty h.cap

/-- The record of a number, the newest being number one. -/
def entry (h : History τ) (number : Int) : Except HistoryError (Record τ) :=
  if 1 ≤ number then
    match h.records[(number - 1).toNat]? with
    | some r => .ok r
    | none => .error (.noEntry number)
  else
    .error (.noEntry number)

/-- The record at an index from the newest, or from the oldest if the index is
below zero. -/
def get? (h : History τ) (index : Int) : Except HistoryError (Record τ) :=
  let position := if index < 0 then index + h.size else index
  if position < 0 then
    .error .outOfRange
  else
    match h.records[position.toNat]? with
    | some r => .ok r
    | none => .error .outOfRange

end History

end PostfixCalc
