import PostfixCalc.Proofs.Machine.Running
import PostfixCalc.Session.Basic

/-!
# What a calculation leads to

A calculation ends in one of two ways.  It prints the rows of its steps, if they
are shown, and the value, and remembers both expression and value
(`calculate_of_value`); or it reports the error of its expression and leaves the
session as it was (`calculate_of_failure`).  With logging, the log of the steps
comes first.  There is no third way, because every number has a text and because
a value is always the last thing that the steps leave on the stack.
-/

namespace PostfixCalc

namespace Session

theorem mapM_eq_map {α β : Type} {f : α → Except Fault β} {g : α → β} (h : ∀ x, f x = .ok (g x))
    (xs : List α) : xs.mapM f = .ok (xs.map g) := by
  have hf : f = fun x => pure (g x) := funext h
  rw [hf, List.mapM_pure]
  rfl

/-! ## Rows -/

/-- The row that shows a step. -/
def rowText (step : Step) : String :=
  let stack := " ".intercalate (step.stack.map Binary64.displayText)
  s!"{step.token}\t{stack}\t{step.action}"

theorem stepRow_eq (step : Step) : stepRow step = .ok (rowText step) := by
  unfold stepRow
  rw [mapM_eq_map Binary64.display_eq]
  rfl

/-- The row of a record in the list of the history. -/
def recordText (entry : Record TimeOfDay × Nat) : String :=
  s!"{entry.2 + 1}\t{entry.1.time.text}\t{entry.1.expression}\t= {entry.1.result.displayText}"

theorem historyRows_eq (h : History TimeOfDay) :
    historyRows h = .ok (h.records.zipIdx.map recordText) := by
  apply mapM_eq_map
  rintro ⟨r, i⟩
  simp only [Binary64.display_eq]
  rfl

/-! ## Calculations -/

/-- The rows to show for an expression that has a value. -/
def shownRows (showSteps : Bool) (expression : String) : List String :=
  if showSteps then (journal (some expression)).map rowText else []

/-- The log of an expression, if there is one. -/
def logged (settings : Settings) (expression : String) : List String :=
  if settings.verbose then (journal (some expression)).map logLine else []

variable {settings : Settings} {s : Session} {expression : String} {x : Binary64} {e : EvalError}

theorem finalValue_of_getLast? {steps : List Step}
    (h : steps.getLast?.map Step.stack = some [x]) : finalValue steps = .ok x := by
  obtain ⟨step, hstep, hstack⟩ := Option.map_eq_some_iff.1 h
  simp [finalValue, hstep, hstack]

theorem compute_of_value (h : evaluate (some expression) = .ok x) (showSteps : Bool) :
    compute showSteps expression = .ok (shownRows showSteps expression, x) := by
  cases showSteps with
  | false =>
      simp only [compute, h]
      rfl
  | true =>
      obtain ⟨htrace, -, hlast⟩ := trace_of_evaluate h
      simp only [compute, htrace, if_true]
      show (do
        let rows ← Failure.ofFaulty ((journal (some expression)).mapM stepRow)
        let value ← Failure.ofFaulty (finalValue (journal (some expression)))
        return (rows, value)) = _
      rw [mapM_eq_map stepRow_eq, finalValue_of_getLast? hlast]
      rfl

theorem compute_of_failure (h : evaluate (some expression) = .error (.expression e))
    (showSteps : Bool) : compute showSteps expression = .error (.expression e) := by
  cases showSteps with
  | false =>
      simp only [compute, h]
      rfl
  | true =>
      simp only [compute, trace_eq_error_iff.2 h, if_true]
      rfl

/-- An expression with a value is remembered, and its value is printed. -/
theorem calculate_of_value (h : evaluate (some expression) = .ok x) :
    calculate settings s expression =
      { out := shownRows s.showSteps expression ++ [x.displayText]
        err := logged settings expression
        failed := false
        fault := none
        session := s.remember settings expression x } := by
  unfold calculate
  rw [compute_of_value h]
  simp only [Binary64.display_eq]
  rfl

/-- An expression that fails is reported, and nothing else changes. -/
theorem calculate_of_failure (h : evaluate (some expression) = .error (.expression e)) :
    calculate settings s expression =
      { out := []
        err := logged settings expression ++ [e.message]
        failed := true
        fault := none
        session := s } := by
  unfold calculate
  rw [compute_of_failure h]
  rfl

theorem calculate_fault (settings : Settings) (s : Session) (expression : String) :
    (calculate settings s expression).fault = none := by
  rcases evaluate_ok_or_error (some expression) with ⟨x, h⟩ | ⟨e, h⟩
  · rw [calculate_of_value h]
  · rw [calculate_of_failure h]

/-- No command that is carried out ends the session by a fault. -/
theorem command_fault (settings : Settings) (s : Session) (c : Command) :
    (command settings s c).fault = none := by
  cases c with
  | help => rfl
  | history =>
      simp only [command, historyRows_eq]
      rfl
  | clear => rfl
  | toggleSteps => rfl
  | repeatEntry number =>
      cases hentry : s.history.entry number with
      | ok r =>
          simp only [command, hentry]
          exact calculate_fault settings s r.expression
      | error err =>
          simp only [command, hentry]
          rfl
  | unknown name => rfl

end Session

end PostfixCalc
