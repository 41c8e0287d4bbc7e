import PostfixCalc.Proofs.Machine.ClosedErrors
import PostfixCalc.Proofs.Machine.FirstFailure
import PostfixCalc.Proofs.Machine.Framing
import PostfixCalc.Proofs.Token.Division

/-!
# What failures cost

A token that fails takes no more off the stack than the operands that it has looked at, and
it records no step.  A run of an expression is as good as feeding its tokens up to the first
that fails, and asking for the result changes nothing (`Call.machine_eq`).  So the machine
can be accounted for by the answers to the tokens alone, whatever calls are made and however
they end: each number puts one value on the stack, each operator of two operands takes one
away, a quotient by zero takes two and the square root of a number below zero one, and there
is one step for every token that was fed (`accounts_after`).
-/

namespace PostfixCalc

/-- How many values a token has taken off the stack that fails with this error. -/
def EvalError.taken : EvalError → Nat
  | .divisionByZero => 2
  | .negativeSqrt _ => 1
  | _ => 0

namespace Machine

namespace Attempt

def isFed (attempt : Attempt) : Bool :=
  match attempt.answer with
  | .ok _ => true
  | .error _ => false

/-- Has a number been pushed? -/
def isPush (attempt : Attempt) : Bool :=
  attempt.isFed && Token.isNumber attempt.token

/-- Has an operator of two operands been applied? -/
def isBinary (attempt : Attempt) : Bool :=
  attempt.isFed && Token.isBinary attempt.token

def isDivisionByZero (attempt : Attempt) : Bool :=
  match attempt.answer with
  | .error (.expression .divisionByZero) => true
  | _ => false

def isNegativeSqrt (attempt : Attempt) : Bool :=
  match attempt.answer with
  | .error (.expression (.negativeSqrt _)) => true
  | _ => false

end Attempt

/-- How much higher the stack is after some attempts: by the numbers that were pushed, less the
operators of two operands that were applied, less two for each quotient by zero and one for each
square root of a number below zero. -/
def growth (log : List Attempt) : Int :=
  log.countP Attempt.isPush - log.countP Attempt.isBinary -
    2 * log.countP Attempt.isDivisionByZero - log.countP Attempt.isNegativeSqrt

/-- The tokens that a call feeds, unless one of them fails. -/
def Call.tokens : Call → List String
  | .feed token => [token]
  | .run expression =>
      match Token.ofExpression expression with
      | .ok tokens => tokens
      | .error _ => []
  | .result => []

/-- The tokens that are fed by calls in order, with the answer to each. -/
def attemptsIn : Machine → List Call → List Attempt
  | _, [] => []
  | m, call :: rest => attempts m call.tokens ++ attemptsIn (outcome (call.action m)).2 rest

/-- The attempts say how the stack and the steps of a machine have changed. -/
structure Accounts (m : Machine) (log : List Attempt) (m' : Machine) : Prop where
  height : (m'.stack.length : Int) = m.stack.length + growth log
  steps : m'.steps.map List.length = m.steps.map (·.length + log.countP Attempt.isFed)

variable {token : String} {m m' m'' : Machine} {log log' : List Attempt} {f : Failure}
  {e : EvalError}

/-! ## Growth -/

@[simp] theorem growth_nil : growth [] = 0 :=
  rfl

theorem growth_append (log log' : List Attempt) :
    growth (log ++ log') = growth log + growth log' := by
  simp only [growth, List.countP_append]
  omega

theorem growth_fed (token : String) :
    growth [{ token, answer := .ok () }] = Token.depth [token] := by
  simp [growth, Token.depth, List.countP_cons, Attempt.isPush, Attempt.isBinary, Attempt.isFed,
    Attempt.isDivisionByZero, Attempt.isNegativeSqrt]

theorem growth_error (token : String) (e : EvalError) :
    growth [{ token, answer := .error (.expression e) }] = -(e.taken : Int) := by
  cases e <;> rfl

theorem Feeds.length_failed {stack left : List Binary64} (h : Feeds token stack (.failed e left)) :
    stack.length = left.length + e.taken := by
  rcases h.failed_cases with ⟨rfl, rfl⟩ | ⟨op, rfl, rfl⟩ | ⟨rfl, x, y, rfl⟩ | ⟨x, rfl, rfl⟩
  all_goals rfl

/-! ## Machines accounted for -/

theorem Accounts.refl (m : Machine) : Accounts m [] m := by
  constructor <;> simp

theorem Accounts.append (h : Accounts m log m') (h' : Accounts m' log' m'') :
    Accounts m (log ++ log') m'' := by
  constructor
  · rw [h'.height, h.height, growth_append]
    omega
  · have hsteps := congrArg (Option.map (· + log'.countP Attempt.isFed)) h.steps
    rw [Option.map_map, Option.map_map] at hsteps
    rw [h'.steps, List.countP_append]
    simpa [Function.comp_def, Nat.add_assoc] using hsteps

theorem accounts_of_feed_eq_ok (h : feed token m = .ok () m') :
    Accounts m [{ token, answer := .ok () }] m' := by
  obtain ⟨action, hfeeds, hsteps⟩ := feeds_of_feed_eq_ok h
  constructor
  · rw [growth_fed, hfeeds.length_eq]
  · rw [hsteps]
    simp [Function.comp_def, Attempt.isFed]

theorem accounts_of_feed_eq_error (h : feed token m = .error f m') :
    Accounts m [{ token, answer := .error f }] m' := by
  obtain ⟨e, rfl, hfeeds, hsteps⟩ := feeds_of_feed_eq_error h
  constructor
  · rw [growth_error, hfeeds.length_failed]
    omega
  · rw [hsteps]
    simp [Attempt.isFed]

theorem accounts_feedAll (tokens : List String) (m : Machine) :
    Accounts m (attempts m tokens) (outcome (feedAll tokens m)).2 := by
  -- The tokens after the first are fed to the machine that it leaves.
  induction tokens generalizing m with
  | nil => exact .refl m
  | cons token rest ih =>
      cases h : feed token m with
      | ok answer m' =>
          rw [attempts_cons_of_ok h, feedAll_cons_of_ok h]
          exact (accounts_of_feed_eq_ok h).append (ih m')
      | error f m' =>
          rw [attempts_cons_of_error h, feedAll_cons_of_error h]
          exact accounts_of_feed_eq_error h

/-! ## Calls -/

theorem result_machine (m : Machine) : (outcome (result m)).2 = m := by
  rw [outcome_result m.stack m.steps]

theorem run_machine {expression : Option String} {tokens : List String}
    (h : Token.ofExpression expression = .ok tokens) (m : Machine) :
    (outcome (run expression m)).2 = (outcome (feedAll tokens m)).2 := by
  rw [run_of_tokens h]
  cases hfeed : feedAll tokens m with
  | ok answer m' =>
      rw [bind_of_ok hfeed]
      exact result_machine m'
  | error f m' =>
      rw [bind_of_error hfeed]
      rfl

/-- A call leaves the machine that its tokens leave. -/
theorem Call.machine_eq (call : Call) (m : Machine) :
    (outcome (call.action m)).2 = (outcome (feedAll call.tokens m)).2 := by
  cases call with
  | feed token =>
      show (outcome (((fun _ => none) <$> Machine.feed token) m)).2 = _
      rw [outcome_map, Call.tokens]
      cases h : Machine.feed token m with
      | ok answer m' => rw [feedAll_cons_of_ok h, feedAll_nil]
      | error f m' => rw [feedAll_cons_of_error h]
  | run expression =>
      show (outcome ((some <$> Machine.run expression) m)).2 = _
      rw [outcome_map, Call.tokens]
      cases h : Token.ofExpression expression with
      | ok tokens => exact run_machine h m
      | error e => rw [run_of_blank h]; rfl
  | result =>
      show (outcome ((some <$> Machine.result) m)).2 = _
      rw [outcome_map]
      exact result_machine m

theorem accounts_after (calls : List Call) (m : Machine) :
    Accounts m (attemptsIn m calls) (after m calls) := by
  induction calls generalizing m with
  | nil => exact .refl m
  | cons call rest ih =>
      have hcall := accounts_feedAll call.tokens m
      rw [← call.machine_eq] at hcall
      exact hcall.append (ih _)

/-! ## Failures -/

/-- The four ways in which a token fails, and what they leave. -/
theorem feed_error_cases (h : feed token m = .error f m') :
    (f = .expression (.unknownToken token) ∧ m' = m) ∨
      (∃ op, f = .expression (.insufficientOperands (some op)) ∧ m' = m) ∨
      (f = .expression .divisionByZero ∧ ∃ x y, m = { m' with stack := x :: y :: m'.stack }) ∨
      ∃ x, f = .expression (.negativeSqrt x) ∧ m = { m' with stack := x :: m'.stack } := by
  obtain ⟨e, rfl, hfeeds, hsteps⟩ := feeds_of_feed_eq_error h
  obtain ⟨stack, steps⟩ := m
  obtain ⟨left, steps'⟩ := m'
  obtain rfl : steps' = steps := hsteps
  rcases hfeeds.failed_cases with ⟨rfl, hstack⟩ | ⟨op, rfl, hstack⟩ | ⟨rfl, x, y, hstack⟩ |
    ⟨x, rfl, hstack⟩
  · obtain rfl : stack = left := hstack
    exact .inl ⟨rfl, rfl⟩
  · obtain rfl : stack = left := hstack
    exact .inr (.inl ⟨op, rfl, rfl⟩)
  · obtain rfl : stack = x :: y :: left := hstack
    exact .inr (.inr (.inl ⟨rfl, x, y, rfl⟩))
  · obtain rfl : stack = x :: left := hstack
    exact .inr (.inr (.inr ⟨x, rfl, rfl⟩))

theorem run_of_all_trimmed {expression : Option String}
    (h : ∀ text ∈ expression, ∀ c ∈ text.toList, Text.isTrimmed c = true) (m : Machine) :
    run expression m = .error (.expression .emptyExpression) m := by
  cases expression with
  | none => exact run_of_blank rfl m
  | some text => exact run_of_blank (Token.ofExpression_eq_error_iff.2 (h text rfl)) m

/-- A run has no tokens and changes nothing, or it feeds all of its tokens, or it has fed those
before the first that fails and does not come to those after it. -/
theorem run_cases (expression : Option String) (m : Machine) :
    (∃ e, Token.ofExpression expression = .error e ∧
      run expression m = .error (.expression e) m) ∨
    (∃ tokens m', Token.ofExpression expression = .ok tokens ∧ feedAll tokens m = .ok () m' ∧
      (outcome (run expression m)).2 = m') ∨
    ∃ before token after m₁ m' f, Token.ofExpression expression = .ok (before ++ token :: after) ∧
      feedAll before m = .ok () m₁ ∧ feed token m₁ = .error f m' ∧
      run expression m = .error f m' := by
  obtain ⟨stack, steps⟩ := m
  cases htokens : Token.ofExpression expression with
  | error e => exact .inl ⟨e, rfl, run_of_blank htokens _⟩
  | ok tokens =>
      rcases feedsAll_or_failsIn tokens stack with ⟨_, _, hfeeds⟩ | ⟨_, _, _, hfails⟩
      · refine .inr (.inl ⟨tokens, _, rfl, hfeeds.feedAll_eq steps, ?_⟩)
        rw [run_machine htokens, hfeeds.feedAll_eq]
        rfl
      · obtain ⟨before, token, after, middle, rfl, hbefore, htoken⟩ := hfails.exists_feeds
        refine .inr (.inr ⟨before, token, after, _, _, _, rfl, hbefore.feedAll_eq steps,
          htoken.feed_eq _, ?_⟩)
        rw [run_of_tokens htokens, bind_of_error (hfails.feedAll_eq steps)]

/-- Whatever was called before, a token that nothing knows and an operator that is short of
operands change nothing; a quotient by zero takes its two operands off the stack, the square
root of a number below zero takes its one, and neither records a step.  A run keeps what the
tokens before the one that fails have done and feeds none after it, a run of a blank expression
changes nothing, and neither does asking for the result.  So the answers to the tokens fed
account for the height of the stack and for the number of steps, whatever calls were made. -/
theorem failures_accounted :
    (∀ (m m' : Machine) (token : String) (f : Failure), feed token m = .error f m' →
      (f = .expression (.unknownToken token) ∧ m' = m) ∨
      (∃ op, f = .expression (.insufficientOperands (some op)) ∧ m' = m) ∨
      (f = .expression .divisionByZero ∧ ∃ x y, m = { m' with stack := x :: y :: m'.stack }) ∨
      ∃ x, f = .expression (.negativeSqrt x) ∧ m = { m' with stack := x :: m'.stack }) ∧
    (∀ (m : Machine) (expression : Option String),
      (∃ e, Token.ofExpression expression = .error e ∧
        run expression m = .error (.expression e) m) ∨
      (∃ tokens m', Token.ofExpression expression = .ok tokens ∧ feedAll tokens m = .ok () m' ∧
        (outcome (run expression m)).2 = m') ∨
      ∃ before token after m₁ m' f,
        Token.ofExpression expression = .ok (before ++ token :: after) ∧
        feedAll before m = .ok () m₁ ∧ feed token m₁ = .error f m' ∧
        run expression m = .error f m') ∧
    (∀ (m : Machine) (expression : Option String),
      (∀ text ∈ expression, ∀ c ∈ text.toList, Text.isTrimmed c = true) →
        run expression m = .error (.expression .emptyExpression) m) ∧
    (∀ m : Machine, (outcome (result m)).2 = m) ∧
    ∀ (recording : Bool) (calls : List Call),
      ((after (.new recording) calls).stack.length : Int) =
        growth (attemptsIn (.new recording) calls) ∧
      (after (.new recording) calls).steps.map List.length =
        if recording then some ((attemptsIn (.new recording) calls).countP Attempt.isFed)
        else none := by
  refine ⟨fun m m' token f h => feed_error_cases h, fun m expression => run_cases expression m,
    fun m expression h => run_of_all_trimmed h m, result_machine, ?_⟩
  intro recording calls
  have haccounts := accounts_after calls (.new recording)
  constructor
  · simpa [Machine.new] using haccounts.height
  · cases recording <;> simpa [Machine.new] using haccounts.steps

/-- Two values are gone with a quotient by zero, and one with a root; of four numbers one is
left, with a step for each of the four. -/
theorem failures_accounted_quotient :
    feed "/" { stack := [.zero false, .one, .nan], steps := some [] } =
        .error (.expression .divisionByZero) { stack := [.nan], steps := some [] } ∧
      (∃ x y, ({ stack := [.zero false, .one, .nan], steps := some [] } : Machine) =
        { stack := [x, y, .nan], steps := some [] }) ∧
      run (some " ") (.new true) = .error (.expression .emptyExpression) (.new true) ∧
      ∃ m, after (.new true) [.feed "2", .run (some "1 0 / +"), .run (some "-1 sqrt 3")] = m ∧
        (m.stack.length : Int) = 1 ∧ m.steps.map List.length = some 4 := by
  have hop : Operator.ofSymbol? "/" = some (.binary .div) :=
    Operator.ofSymbol?_symbol (.binary .div)
  have hfeed : feed "/" { stack := [.zero false, .one, .nan], steps := some [] } =
      .error (.expression .divisionByZero) { stack := [.nan], steps := some [] } :=
    (Feeds.binaryFails hop (divide_of_isZero _ rfl)).feed_eq _
  obtain ⟨hfailures, -, hblank, -, hcounts⟩ := failures_accounted
  obtain ⟨hheight, hsteps⟩ :=
    hcounts true [.feed "2", .run (some "1 0 / +"), .run (some "-1 sqrt 3")]
  have hspace : Text.isTrimmed ' ' = true := by decide
  refine ⟨hfeed, ?_, hblank _ _ (by simpa using hspace), _, rfl, hheight.trans (by decide +kernel),
    hsteps.trans (by decide +kernel)⟩
  rcases hfailures _ _ _ _ hfeed with ⟨h, -⟩ | ⟨op, h, -⟩ | ⟨-, x, y, h⟩ | ⟨x, h, -⟩
  · cases h
  · cases h
  · exact ⟨x, y, h⟩
  · cases h

end Machine

end PostfixCalc
