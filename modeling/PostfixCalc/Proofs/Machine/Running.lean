import PostfixCalc.Machine.Evaluation
import PostfixCalc.Proofs.Machine.Feeding

/-!
# How the evaluation of an expression ends

A run ends in one of four ways: the expression has no tokens, one of its tokens
fails, a single value is left, or more than one is (`Runs`).  No run ends in any
other way (`exists_runs`): after the tokens of an expression the stack is never
empty.  `evaluate`, `validate`, `trace` and `journal` are four views of the same
run on an empty stack.
-/

namespace PostfixCalc

namespace Machine

/-- How a run of an expression on a stack ends: with an answer, with a stack, and
with the steps of the tokens that were fed. -/
inductive Runs (expression : Option String) (stack : List Binary64) :
    Except EvalError Binary64 → List Binary64 → List Step → Prop
  | blank {e : EvalError} (h : Token.ofExpression expression = .error e) :
      Runs expression stack (.error e) stack []
  | fails {tokens : List String} {e : EvalError} {left : List Binary64} {steps : List Step}
      (h : Token.ofExpression expression = .ok tokens)
      (hfails : FailsIn stack tokens e left steps) :
      Runs expression stack (.error e) left steps
  | value {tokens : List String} {x : Binary64} {steps : List Step}
      (h : Token.ofExpression expression = .ok tokens)
      (hfeeds : FeedsAll stack tokens [x] steps) :
      Runs expression stack (.ok x) [x] steps
  | tooMany {tokens : List String} {x y : Binary64} {rest : List Binary64} {steps : List Step}
      (h : Token.ofExpression expression = .ok tokens)
      (hfeeds : FeedsAll stack tokens (x :: y :: rest) steps) :
      Runs expression stack (.error (.tooManyOperands (rest.length + 2))) (x :: y :: rest) steps

/-- An answer that leaves a machine. -/
def ending {α : Type} : Except EvalError α → Machine → EStateM.Result Failure Machine α
  | .ok x, m => .ok x m
  | .error e, m => .error (.expression e) m

variable {expression : Option String} {tokens : List String} {stack stack' : List Binary64}
  {answer : Except EvalError Binary64} {more : List Step}

theorem run_of_blank {e : EvalError} (h : Token.ofExpression expression = .error e)
    (m : Machine) : run expression m = .error (.expression e) m := by
  unfold run
  rw [h]
  rfl

theorem run_of_tokens (h : Token.ofExpression expression = .ok tokens) (m : Machine) :
    run expression m = (feedAll tokens >>= fun _ => result) m := by
  unfold run
  rw [h]
  rfl

/-- The machine ends as `Runs` says, whatever it has recorded before. -/
theorem Runs.run_eq (h : Runs expression stack answer stack' more)
    (steps : Option (List Step)) :
    run expression { stack, steps } =
      ending answer { stack := stack', steps := steps.map (· ++ more) } := by
  cases h with
  | blank h =>
      rw [run_of_blank h]
      cases steps <;> simp [ending]
  | fails h hfails =>
      rw [run_of_tokens h, bind_of_error (hfails.feedAll_eq steps)]
      rfl
  | value h hfeeds =>
      rw [run_of_tokens h, bind_of_ok (hfeeds.feedAll_eq steps)]
      exact result_singleton _ _
  | tooMany h hfeeds =>
      rw [run_of_tokens h, bind_of_ok (hfeeds.feedAll_eq steps)]
      exact result_of_lt (by simp)

theorem exists_runs (expression : Option String) (stack : List Binary64) :
    ∃ answer stack' more, Runs expression stack answer stack' more := by
  cases h : Token.ofExpression expression with
  | error e => exact ⟨_, _, _, .blank h⟩
  | ok tokens =>
      rcases feedsAll_or_failsIn tokens stack with ⟨stack', steps, hfeeds⟩ | ⟨_, _, _, hfails⟩
      · have hne : stack' ≠ [] := hfeeds.ne_nil (Token.ne_nil_of_ofExpression h)
        rcases stack' with _ | ⟨x, _ | ⟨y, rest⟩⟩
        · exact absurd rfl hne
        · exact ⟨_, _, _, .value h hfeeds⟩
        · exact ⟨_, _, _, .tooMany h hfeeds⟩
      · exact ⟨_, _, _, .fails h hfails⟩

end Machine

/-! ## Views of a run -/

section

open Machine

variable {expression : Option String} {stack : List Binary64}
  {answer : Except EvalError Binary64} {steps : List Step}

theorem evaluate_of_runs (h : Runs expression [] answer stack steps) :
    evaluate expression = answer.mapError .expression := by
  unfold evaluate Machine.new
  rw [h.run_eq]
  cases answer <;> rfl

/-- Only the tokens of an expression matter to its value. -/
theorem evaluate_congr {expression expression' : Option String}
    (h : Token.ofExpression expression = Token.ofExpression expression') :
    evaluate expression = evaluate expression' := by
  unfold evaluate run
  rw [h]

theorem trace_congr {expression expression' : Option String}
    (h : Token.ofExpression expression = Token.ofExpression expression') :
    trace expression = trace expression' := by
  unfold trace run
  rw [h]

theorem trace_of_runs (h : Runs expression [] answer stack steps) :
    trace expression = (answer.mapError .expression).map fun _ => steps := by
  unfold trace Machine.new
  rw [h.run_eq]
  cases answer <;> rfl

theorem journal_of_runs (h : Runs expression [] answer stack steps) :
    journal expression = steps := by
  unfold journal Machine.new
  rw [h.run_eq]
  cases answer <;> rfl

theorem validate_of_runs (h : Runs expression [] answer stack steps) :
    validate expression = .ok answer.isOk := by
  unfold validate
  rw [evaluate_of_runs h]
  cases answer <;> rfl

/-- The only failures are those of expressions. -/
theorem evaluate_ok_or_error (expression : Option String) :
    (∃ x, evaluate expression = .ok x) ∨
      ∃ e, evaluate expression = .error (.expression e) := by
  obtain ⟨answer, _, _, hruns⟩ := exists_runs expression []
  rw [evaluate_of_runs hruns]
  cases answer with
  | ok x => exact .inl ⟨x, rfl⟩
  | error e => exact .inr ⟨e, rfl⟩

theorem trace_eq_error_iff {expression : Option String} {f : Failure} :
    trace expression = .error f ↔ evaluate expression = .error f := by
  obtain ⟨answer, _, _, hruns⟩ := exists_runs expression []
  rw [trace_of_runs hruns, evaluate_of_runs hruns]
  cases answer <;> simp [Except.mapError, Except.map]

/-- The tokens of an expression with a value leave nothing but that value. -/
theorem exists_feedsAll_of_evaluate {x : Binary64} (h : evaluate expression = .ok x) :
    ∃ tokens steps, Token.ofExpression expression = .ok tokens ∧
      FeedsAll [] tokens [x] steps := by
  obtain ⟨answer, stack, steps, hruns⟩ := exists_runs expression []
  rw [evaluate_of_runs hruns] at h
  cases hruns with
  | blank hblank => simp [Except.mapError] at h
  | fails htokens hfails => simp [Except.mapError] at h
  | tooMany htokens hfeeds => simp [Except.mapError] at h
  | @value tokens y _ htokens hfeeds =>
      have hxy : y = x := by simpa [Except.mapError] using h
      exact ⟨tokens, steps, htokens, hxy ▸ hfeeds⟩

/-- The steps of an expression with a value: one for each token, in order, and
the last one leaves nothing but the value on the stack. -/
theorem trace_of_evaluate {x : Binary64} (h : evaluate expression = .ok x) :
    trace expression = .ok (journal expression) ∧
      Token.ofExpression expression = .ok ((journal expression).map Step.token) ∧
      (journal expression).getLast?.map Step.stack = some [x] := by
  obtain ⟨tokens, steps, htokens, hfeeds⟩ := exists_feedsAll_of_evaluate h
  have hruns := Runs.value htokens hfeeds
  have hlast := hfeeds.getLast?_stack (Token.ne_nil_of_ofExpression htokens)
  rw [trace_of_runs hruns, journal_of_runs hruns, hfeeds.map_token, hlast]
  exact ⟨rfl, htokens, rfl⟩

end

end PostfixCalc
