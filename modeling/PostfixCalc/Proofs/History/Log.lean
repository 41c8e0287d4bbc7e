import Mathlib.Data.List.Induction
import PostfixCalc.History

/-!
# A history is the newest part of a log

A log keeps every record that was added since the history was last cleared, newest
first, and never lets go of one.  After any operations a history holds the first
records of the log, as many as its cap allows (`records_after`): each operation keeps
the two in step (`records_step`).  So the numbers of entries, which begin at one, and
the indices, which begin at zero and count back from the end below it, name records of
the log (`refines_log`).
-/

namespace PostfixCalc

namespace History

variable {τ : Type}

/-- What is done to a history. -/
inductive Operation (τ : Type) where
  | add (expression : String) (result : Binary64) (time : τ)
  | clear
  /-- Ask for the record of a number. -/
  | entry (number : Int)
  /-- Ask for the record at an index. -/
  | get (index : Int)

namespace Operation

/-- Does the operation forget all records? -/
def forgets : Operation τ → Bool
  | clear => true
  | _ => false

/-- The record that the operation adds: the expression is stripped, and the result and
the time are as they are given. -/
def record? : Operation τ → Option (Record τ)
  | add expression result time =>
      some { expression := Text.trim expression, result, time }
  | _ => none

/-- What the operation makes of a log. -/
def extend (op : Operation τ) (log : List (Record τ)) : List (Record τ) :=
  if op.forgets then [] else op.record?.toList ++ log

end Operation

/-- What an operation answers, and the history after it.  To add is answered by the
record, and to clear by nothing. -/
def step (h : History τ) :
    Operation τ → Except HistoryError (Option (Record τ)) × History τ
  | .add expression result time =>
      (.ok (some (recordOf expression result time)), h.add expression result time)
  | .clear => (.ok none, h.clear)
  | .entry number => ((h.entry number).map some, h)
  | .get index => ((h.get? index).map some, h)

/-- The history after operations in order. -/
def after (h : History τ) (ops : List (Operation τ)) : History τ :=
  ops.foldl (fun h op => (h.step op).2) h

/-- The records that were added after the history was last cleared, newest first. -/
def log (ops : List (Operation τ)) : List (Record τ) :=
  (ops.reverse.takeWhile fun op => !op.forgets).filterMap Operation.record?

/-! ## Operations -/

theorem log_append_singleton (ops : List (Operation τ)) (op : Operation τ) :
    log (ops ++ [op]) = op.extend (log ops) := by
  unfold log Operation.extend
  rw [List.reverse_append, List.reverse_singleton, List.singleton_append, List.takeWhile_cons]
  cases op <;> rfl

theorem after_append_singleton (h : History τ) (ops : List (Operation τ)) (op : Operation τ) :
    h.after (ops ++ [op]) = ((h.after ops).step op).2 := by
  simp [after]

theorem cap_step (h : History τ) (op : Operation τ) : (h.step op).2.cap = h.cap := by
  cases op <;> rfl

/-- What was let go of before makes no difference to what is let go of next. -/
theorem take_cons_take {α : Type} (m : Nat) (x : α) (xs : List α) :
    (x :: xs.take m).take m = (x :: xs).take m := by
  cases m with
  | zero => rfl
  | succ m => simp [List.take_take]

/-- An operation that finds the newest records of a log leaves those of the log that it
extends. -/
theorem records_step {h : History τ} {cap : Nat} {older : List (Record τ)} (hcap : h.cap = cap)
    (hrecords : h.records = older.take cap) (op : Operation τ) :
    (h.step op).2.records = (op.extend older).take cap := by
  cases op with
  | add expression result time =>
      show (recordOf expression result time :: h.records).take h.cap = _
      rw [hcap, hrecords, take_cons_take]
      rfl
  | clear => exact List.take_nil.symm
  | entry number => exact hrecords
  | get index => exact hrecords

theorem cap_after (h : History τ) (ops : List (Operation τ)) : (h.after ops).cap = h.cap := by
  induction ops using List.reverseRecOn with
  | nil => rfl
  | append_singleton ops op ih => rw [after_append_singleton, cap_step, ih]

/-- After any operations a history holds the newest records of the log. -/
theorem records_after (cap : Nat) (ops : List (Operation τ)) :
    ((empty cap).after ops).records = (log ops).take cap := by
  induction ops using List.reverseRecOn with
  | nil => exact List.take_nil.symm
  | append_singleton ops op ih =>
      rw [after_append_singleton, log_append_singleton]
      exact records_step (cap_after _ ops) ih op

/-! ## Numbers and indices -/

variable {h : History τ} {r : Record τ}

/-- The record at a place counted from zero, the newest record being first, or else the
given failure. -/
def atPlace (h : History τ) (place : Int) (e : HistoryError) : Except HistoryError (Record τ) :=
  if place < 0 then
    .error e
  else
    match h.records[place.toNat]? with
    | some r => .ok r
    | none => .error e

theorem atPlace_eq_ok_iff {place : Int} {e : HistoryError} :
    h.atPlace place e = .ok r ↔
      (0 ≤ place ∧ place < h.size) ∧ h.records[place.toNat]? = some r := by
  unfold atPlace
  by_cases hneg : place < 0
  · have hnot : ¬ (0 ≤ place ∧ place < h.size) := by omega
    simp [hneg, hnot]
  · rw [if_neg hneg]
    cases hr : h.records[place.toNat]? with
    | none => simp
    | some r' =>
        have hlt : place.toNat < h.size := (List.getElem?_eq_some_iff.1 hr).1
        have hinside : 0 ≤ place ∧ place < h.size := by omega
        simp [hinside]

theorem atPlace_eq_error_iff {place : Int} {e e' : HistoryError} :
    h.atPlace place e = .error e' ↔ ¬ (0 ≤ place ∧ place < h.size) ∧ e' = e := by
  unfold atPlace
  by_cases hneg : place < 0
  · have hnot : ¬ (0 ≤ place ∧ place < h.size) := by omega
    simp [hneg, hnot, eq_comm]
  · rw [if_neg hneg]
    cases hr : h.records[place.toNat]? with
    | none =>
        have hle : h.size ≤ place.toNat := List.getElem?_eq_none_iff.1 hr
        have hnot : ¬ (0 ≤ place ∧ place < h.size) := by omega
        simp [hnot, eq_comm]
    | some r' =>
        have hlt : place.toNat < h.size := (List.getElem?_eq_some_iff.1 hr).1
        have hinside : 0 ≤ place ∧ place < h.size := by omega
        simp [hinside]

theorem entry_eq_atPlace (h : History τ) (number : Int) :
    h.entry number = h.atPlace (number - 1) (.noEntry number) := by
  unfold entry atPlace
  by_cases hpos : 1 ≤ number
  · have hnot : ¬ number - 1 < 0 := by omega
    exact (if_pos hpos).trans (if_neg hnot).symm
  · have hneg : number - 1 < 0 := by omega
    exact (if_neg hpos).trans (if_pos hneg).symm

theorem get?_eq_atPlace (h : History τ) (index : Int) :
    h.get? index = h.atPlace (if index < 0 then index + h.size else index) .outOfRange :=
  rfl

/-- Numbers count from one, and do not wrap. -/
theorem entry_eq_ok_iff {number : Int} :
    h.entry number = .ok r ↔
      (1 ≤ number ∧ number ≤ h.size) ∧ h.records[(number - 1).toNat]? = some r := by
  have hinside : (0 ≤ number - 1 ∧ number - 1 < h.size) ↔ 1 ≤ number ∧ number ≤ h.size := by
    omega
  rw [entry_eq_atPlace, atPlace_eq_ok_iff, hinside]

theorem entry_eq_error_iff {number : Int} {e : HistoryError} :
    h.entry number = .error e ↔
      ¬ (1 ≤ number ∧ number ≤ h.size) ∧ e = .noEntry number := by
  have hinside : (0 ≤ number - 1 ∧ number - 1 < h.size) ↔ 1 ≤ number ∧ number ≤ h.size := by
    omega
  rw [entry_eq_atPlace, atPlace_eq_error_iff, hinside]

/-- Indices count from zero, and those below it from the end. -/
theorem get?_eq_ok_iff {index : Int} :
    h.get? index = .ok r ↔
      ((0 ≤ index ∧ index < h.size) ∧ h.records[index.toNat]? = some r) ∨
        ((-h.size ≤ index ∧ index < 0) ∧ h.records[(h.size + index).toNat]? = some r) := by
  rw [get?_eq_atPlace, atPlace_eq_ok_iff]
  by_cases hneg : index < 0
  · have hcomm : index + (h.size : Int) = h.size + index := by omega
    have hinside : (0 ≤ (h.size : Int) + index ∧ (h.size : Int) + index < h.size) ↔
        -h.size ≤ index ∧ index < 0 := by
      omega
    have hnot : ¬ (0 ≤ index ∧ index < h.size) := by omega
    rw [if_pos hneg, hcomm, hinside]
    simp [hnot]
  · have hnot : ¬ (-h.size ≤ index ∧ index < 0) := by omega
    rw [if_neg hneg]
    simp [hnot]

theorem get?_eq_error_iff {index : Int} {e : HistoryError} :
    h.get? index = .error e ↔ ¬ (-h.size ≤ index ∧ index < h.size) ∧ e = .outOfRange := by
  rw [get?_eq_atPlace, atPlace_eq_error_iff]
  refine and_congr_left' (not_congr ?_)
  by_cases hneg : index < 0
  · rw [if_pos hneg]
    omega
  · rw [if_neg hneg]
    omega

/-! ## Refinement -/

theorem size_after (cap : Nat) (ops : List (Operation τ)) :
    ((empty cap).after ops).size = min cap (log ops).length := by
  rw [size, records_after, List.length_take]

/-- A place inside the history is that of the record in the log. -/
theorem records_after_getElem? {cap place : Nat} {ops : List (Operation τ)}
    (h : place < min cap (log ops).length) :
    ((empty cap).after ops).records[place]? = (log ops)[place]? := by
  have hcap : place < cap := by omega
  rw [records_after, List.getElem?_take_of_lt hcap]

/-- A history with any cap, empty at first, holds the newest records of the log, as many
as the cap allows, after any operations.  The number of an entry is answered by that
record of the log if it lies between one and the number of records, and else it is
refused; an index is answered by the record at that place, counted from the end if it
lies below zero, and else it is refused.  To ask leaves the history as it is. -/
theorem refines_log (cap : Nat) (ops : List (Operation τ)) :
    let h := (empty cap).after ops
    let size := min cap (log ops).length
    ofCap? (some (cap : Int)) = .ok (empty cap : History τ) ∧
      h.records = (log ops).take cap ∧
      h.size = size ∧
      (∀ (n : Int) (r : Record τ), h.entry n = .ok r ↔
        (1 ≤ n ∧ n ≤ size) ∧ (log ops)[(n - 1).toNat]? = some r) ∧
      (∀ (n : Int) (e : HistoryError), h.entry n = .error e ↔
        ¬ (1 ≤ n ∧ n ≤ size) ∧ e = .noEntry n) ∧
      (∀ (i : Int) (r : Record τ), h.get? i = .ok r ↔
        ((0 ≤ i ∧ i < size) ∧ (log ops)[i.toNat]? = some r) ∨
          ((-size ≤ i ∧ i < 0) ∧ (log ops)[(size + i).toNat]? = some r)) ∧
      (∀ (i : Int) (e : HistoryError), h.get? i = .error e ↔
        ¬ (-size ≤ i ∧ i < size) ∧ e = .outOfRange) ∧
      (∀ n, h.step (.entry n) = ((h.entry n).map some, h)) ∧
      ∀ i, h.step (.get i) = ((h.get? i).map some, h) := by
  intro h size
  have hsize : h.size = size := size_after cap ops
  have hrecords : ∀ place : Int, 0 ≤ place → place < size →
      h.records[place.toNat]? = (log ops)[place.toNat]? := by
    intro place hpos hlt
    exact records_after_getElem? (by omega)
  refine ⟨?_, records_after cap ops, hsize, ?_, ?_, ?_, ?_, fun _ => rfl, fun _ => rfl⟩
  · have hnot : ¬ (cap : Int) < 0 := by omega
    simp [ofCap?, hnot]
  · intro n r
    rw [entry_eq_ok_iff, hsize]
    refine and_congr_right fun hn => ?_
    rw [hrecords _ (by omega) (by omega)]
  · intro n e
    rw [entry_eq_error_iff, hsize]
  · intro i r
    rw [get?_eq_ok_iff, hsize]
    refine or_congr (and_congr_right fun hi => ?_) (and_congr_right fun hi => ?_)
    · rw [hrecords _ (by omega) (by omega)]
    · rw [hrecords _ (by omega) (by omega)]
  · intro i e
    rw [get?_eq_error_iff, hsize]

/-- Of three records two are left; the third is gone, and number zero is none. -/
example :
    let r := fun text => { expression := text, result := Binary64.one, time := () : Record Unit }
    let h := (empty 2).after [.add "1" .one (), .add " 2 2 / " .one (), .add "1 1 *" .one ()]
    h.records = [r "1 1 *", r "2 2 /"] ∧ h.get? (-1) = .ok (r "2 2 /") ∧
      h.entry 3 = .error (.noEntry 3) ∧ h.entry 0 = .error (.noEntry 0) := by
  decide +kernel

end History

end PostfixCalc
