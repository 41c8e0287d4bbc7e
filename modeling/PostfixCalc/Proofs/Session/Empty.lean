import PostfixCalc.Proofs.Machine.FirstFailure
import PostfixCalc.Proofs.Session.Remembered
import PostfixCalc.Proofs.Session.Turns

/-!
# When an expression is reported as empty

The message for an empty expression begins with a letter with which no other report begins,
neither another message nor a line of log.  So it is reported only where a line asks to
calculate an expression without tokens (`blank_of_failsWith`).  Lines that are not blank
never do, because what they ask for is the line itself or an expression that is
remembered, and none of these is blank (`not_mem_err_of_lines`).
-/

namespace PostfixCalc

open Text

/-! ## How reports begin -/

theorem head?_toList_append {text after : String} {c : Char} (h : text.toList.head? = some c) :
    (text ++ after).toList.head? = some c := by
  rw [String.toList_append, List.head?_append, h, Option.some_or]

theorem head?_message {e : EvalError} (h : e ≠ .emptyExpression) :
    e.message.toList.head? ≠ some 'E' := by
  have hother : ∃ c, e.message.toList.head? = some c ∧ c ≠ 'E' := by
    cases e with
    | emptyExpression => exact absurd rfl h
    | unknownToken token =>
        exact ⟨'U', head?_toList_append (head?_toList_append rfl), by decide⟩
    | insufficientOperands operator =>
        cases operator with
        | none => exact ⟨'I', rfl, by decide⟩
        | some op => exact ⟨'I', head?_toList_append (head?_toList_append rfl), by decide⟩
    | tooManyOperands count =>
        have hclosed : "Invalid expression: too many operands".toList.head? = some 'I' := rfl
        exact ⟨'I', hclosed, by decide⟩
    | divisionByZero => exact ⟨'D', rfl, by decide⟩
    | negativeSqrt operand =>
        have hclosed : "Square root of negative number".toList.head? = some 'S' := rfl
        exact ⟨'S', hclosed, by decide⟩
  obtain ⟨c, hc, hne⟩ := hother
  rw [hc]
  simpa using hne

namespace Session

theorem head?_logLine (step : Step) : (logLine step).toList.head? = some 'r' := by
  unfold logLine
  iterate 6 apply head?_toList_append
  rfl

variable {settings : Settings} {s : Session} {text message : String}

theorem head?_of_mem_log {r : Request} {verbose : Bool} (h : message ∈ r.log verbose) :
    message.toList.head? = some 'r' := by
  cases r with
  | calculation expression =>
      cases verbose with
      | false => simp [Request.log] at h
      | true =>
          obtain ⟨step, -, rfl⟩ := List.mem_map.1 (by simpa [Request.log] using h)
          exact head?_logLine step
  | _ => simp [Request.log] at h

/-! ## Lines that are not blank -/

/-- Only an expression without tokens is reported as empty. -/
theorem blank_of_failsWith (h : FailsWith s text EvalError.emptyExpression.message) :
    ∃ expression, request s.history text = .calculation expression ∧
      ∀ c ∈ expression.toList, isTrimmed c = true := by
  generalize hmessage : EvalError.emptyExpression.message = message at h
  have hhead : message.toList.head? = some 'E' := by
    rw [← hmessage]
    rfl
  cases h with
  | @calculation expression e h he =>
      have hempty : e = .emptyExpression := by
        by_contra hne
        exact head?_message hne hhead
      rw [hempty] at he
      exact ⟨expression, h, Token.ofExpression_eq_error_iff.1 (Machine.ofExpression_of_evaluate he)⟩
  | @unknown name h =>
      have hother : s!"Unknown command :{name}".toList.head? = some 'U' := head?_toList_append rfl
      rw [hhead] at hother
      contradiction
  | @absent number h =>
      have hother : s!"No history entry {number}".toList.head? = some 'N' :=
        head?_toList_append rfl
      rw [hhead] at hother
      contradiction

/-- A line that is not blank does not report an empty expression, as long as none is
remembered. -/
theorem not_mem_err_of_line (hs : s.Consistent) (htext : ∃ c ∈ text.toList, isTrimmed c = false)
    (settings : Settings) :
    EvalError.emptyExpression.message ∉ (line settings s text).err := by
  intro h
  rcases mem_log_or_failsWith h with h | h
  · have hhead := head?_of_mem_log h
    contradiction
  · obtain ⟨expression, hrequest, hblank⟩ := blank_of_failsWith h
    obtain ⟨c, hc, hkept⟩ : ∃ c ∈ expression.toList, isTrimmed c = false := by
      rcases eq_or_mem_of_request hrequest with rfl | ⟨r, hr, rfl⟩
      · exact htext
      · exact (hs.replayable r hr).not_blank
    rw [hblank c hc] at hkept
    contradiction

theorem not_mem_err_of_lines (hs : s.Consistent) {texts : List String}
    (h : ∀ text ∈ texts, ∃ c ∈ text.toList, isTrimmed c = false) (settings : Settings) :
    EvalError.emptyExpression.message ∉ (lines settings s texts).err := by
  induction s, texts using turns_induction settings with
  | nil s => simp [lines, Reply.silent]
  | ends s text rest f hfault =>
      rw [lines_cons_of_fault hfault]
      exact not_mem_err_of_line hs (h text (by simp)) settings
  | follow s text rest hfault ih =>
      obtain ⟨htext, hrest⟩ := List.forall_mem_cons.1 h
      rw [lines_cons_of_none hfault]
      intro hmem
      rcases List.mem_append.1 hmem with hmem | hmem
      · exact not_mem_err_of_line hs htext settings hmem
      · exact ih (hs.line settings text) hrest hmem

end Session

end PostfixCalc
