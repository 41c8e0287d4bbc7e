import PostfixCalc.Proofs.Binary64.Trapping
import PostfixCalc.Proofs.Machine.Recording

/-!
# No fault leaves the machine

The machine is built on primitives that trap: arithmetic outside its domain, texts
that spell no number, whole parts of what is not finite, an empty stack.  No call of
a machine lets such a fault out, whatever was called before and however those calls
ended (`Call.answers`): a call answers, or it fails by an error of its expression.
The same holds of the evaluation of expressions, and validating one always answers.
-/

namespace PostfixCalc

namespace Machine

/-- A result that is no fault: an answer or an error of the expression. -/
def IsClosed {α : Type} (result : Except Failure α) : Prop :=
  (∃ x, result = .ok x) ∨ ∃ e, result = .error (.expression e)

/-- The machine after calls in order, whatever they answer. -/
def after (m : Machine) (calls : List Call) : Machine :=
  calls.foldl (fun m call => (outcome (call.action m)).2) m

/-! ## The stack is a primitive too -/

variable {m m' : Machine} {e : Failure}

theorem pop_eq_error_iff :
    pop m = .error e m' ↔ m.stack = [] ∧ e = .fault .emptyStack ∧ m' = m := by
  obtain ⟨stack, steps⟩ := m
  cases stack with
  | nil =>
      show EStateM.Result.error (.fault .emptyStack) _ = .error e m' ↔ _
      simp [eq_comm]
  | cons x rest => simp

theorem bottom_eq_error_iff :
    bottom m = .error e m' ↔ m.stack = [] ∧ e = .fault .emptyStack ∧ m' = m := by
  unfold bottom
  rw [bind_of_ok (get_eq m)]
  cases hstack : m.bottomFirst with
  | nil =>
      have hempty : m.stack = [] := by simpa [bottomFirst] using hstack
      show EStateM.Result.error (.fault .emptyStack) m = .error e m' ↔ _
      simp [hempty, eq_comm]
  | cons x rest =>
      have hfull : m.stack ≠ [] := by
        intro hempty
        simp [bottomFirst, hempty] at hstack
      show EStateM.Result.ok x m = .error e m' ↔ _
      simp [hfull]

/-! ## Calls -/

theorem IsClosed.map {α β : Type} {a : Action α} (h : IsClosed (outcome (a m)).1) (f : α → β) :
    IsClosed (outcome ((f <$> a) m)).1 := by
  rw [outcome_map]
  rcases h with ⟨x, hx⟩ | ⟨e, he⟩
  · rw [hx]
    exact .inl ⟨f x, rfl⟩
  · rw [he]
    exact .inr ⟨e, rfl⟩

theorem isClosed_feed (token : String) (m : Machine) : IsClosed (outcome (feed token m)).1 := by
  obtain ⟨r, hr⟩ := exists_feeds token m.stack
  rw [hr.feed_eq m.steps]
  cases r with
  | fed stack action => exact .inl ⟨_, rfl⟩
  | failed e left => exact .inr ⟨_, rfl⟩

theorem isClosed_run (expression : Option String) (m : Machine) :
    IsClosed (outcome (run expression m)).1 := by
  obtain ⟨answer, stack, more, hruns⟩ := exists_runs expression m.stack
  rw [hruns.run_eq m.steps]
  cases answer with
  | ok x => exact .inl ⟨_, rfl⟩
  | error e => exact .inr ⟨_, rfl⟩

/-- The bottom of the stack is looked at only where there is one. -/
theorem isClosed_result (m : Machine) : IsClosed (outcome (result m)).1 := by
  rw [outcome_result m.stack m.steps]
  unfold resultOf
  split
  · exact .inr ⟨_, rfl⟩
  · exact .inl ⟨_, rfl⟩
  · exact .inr ⟨_, rfl⟩

/-- No call lets a fault out, whatever the machine holds. -/
theorem Call.isClosed (call : Call) (m : Machine) : IsClosed (outcome (call.action m)).1 := by
  cases call with
  | feed token => exact (isClosed_feed token m).map _
  | run expression => exact (isClosed_run expression m).map _
  | result => exact (isClosed_result m).map _

end Machine

open Machine

theorem isClosed_evaluate (expression : Option String) : IsClosed (evaluate expression) :=
  evaluate_ok_or_error expression

theorem isClosed_trace (expression : Option String) : IsClosed (trace expression) := by
  obtain ⟨answer, _, _, hruns⟩ := exists_runs expression []
  rw [trace_of_runs hruns]
  cases answer with
  | ok x => exact .inl ⟨_, rfl⟩
  | error e => exact .inr ⟨e, rfl⟩

/-- The primitives trap outside their domains, which are those of the first part.
No call of a machine lets a fault out, after whatever calls and whether steps are
recorded or not, and neither does the evaluation of an expression, of its steps, or
of whether it has a value. -/
theorem faults_never_escape :
    ((∀ x y f, Binary64.divTrapping x y = .error f ↔ y.isZero = true ∧ f = .zeroDivisor) ∧
      (∀ x f, Binary64.sqrtTrapping x = .error f ↔
        x.isBelowZero = true ∧ f = .undefinedResult) ∧
      (∀ function x f, Binary64.angleTrapping function x = .error f ↔
        (∃ negative, x = .infinity negative) ∧ f = .undefinedResult) ∧
      (∀ x y f, Binary64.powTrapping x y = .error f ↔
        (x.isFinite = true ∧ y.isFinite = true) ∧
          (x.isUndefinedPower y = true ∧ f = .undefinedResult ∨
            (x.isZero = false ∧ ∃ negative, x.pow y = .infinity negative) ∧ f = .overflow)) ∧
      (∀ text f, Binary64.read text = .error f ↔
        (Decimal.parse? text.toList = none ∧ Binary64.ofWord? text.toList = none) ∧
          f = .notANumber text) ∧
      (∀ x f, Binary64.wholePart x = .error f ↔ x.isFinite = false ∧ f = .noWholePart) ∧
      (∀ m m' e, pop m = .error e m' ↔ m.stack = [] ∧ e = .fault .emptyStack ∧ m' = m) ∧
      ∀ m m' e, bottom m = .error e m' ↔ m.stack = [] ∧ e = .fault .emptyStack ∧ m' = m) ∧
    (∀ (recording : Bool) (calls : List Call) (call : Call),
      IsClosed (outcome (call.action (after (.new recording) calls))).1) ∧
    ∀ expression : Option String,
      IsClosed (evaluate expression) ∧ IsClosed (trace expression) ∧
        ∃ valid, validate expression = .ok valid := by
  refine ⟨⟨?_, ?_, ?_, ?_, ?_, ?_, ?_, ?_⟩, ?_, ?_⟩
  · exact fun x y f => Binary64.divTrapping_eq_error_iff
  · exact fun x f => Binary64.sqrtTrapping_eq_error_iff
  · exact fun function x f => Binary64.angleTrapping_eq_error_iff
  · exact fun x y f => Binary64.powTrapping_eq_error_iff
  · exact fun text f => Binary64.read_eq_error_iff
  · exact fun x f => Binary64.wholePart_eq_error_iff
  · exact fun m m' e => pop_eq_error_iff
  · exact fun m m' e => bottom_eq_error_iff
  · intro recording calls call
    exact call.isClosed _
  · intro expression
    obtain ⟨answer, _, _, hruns⟩ := exists_runs expression []
    exact ⟨isClosed_evaluate expression, isClosed_trace expression, _, validate_of_runs hruns⟩

-- The sine of an infinity traps, and it is never asked for.
example : evaluate (some "10 400 ^ sin") = .ok .nan := by
  decide +kernel

end PostfixCalc
