import PostfixCalc.Machine.Transition
import PostfixCalc.Proofs.Operator.Failure
import PostfixCalc.Proofs.Token.Kind

/-!
# What tokens do to a stack

`Feeds` lists everything that one token can do to a stack: the number that it
pushes, the operands that it takes and the value in their place, or the error
and what it leaves of the stack.  The machine does exactly that
(`Feeds.feed_eq`), on every stack something applies (`exists_feeds`), and the
recorded steps have no say in it.

A list of tokens is fed to its end (`FeedsAll`) or up to a token that fails
(`FailsIn`).  Whatever a run of the machine keeps is proved by induction on
these two, from what `Feeds` keeps.
-/

namespace PostfixCalc

namespace Binary64

/-- The text for display, which every number has. -/
def displayText (x : Binary64) : String :=
  match x.display with
  | .ok text => text
  | .error _ => ""

theorem display_eq (x : Binary64) : x.display = .ok x.displayText := by
  obtain ⟨text, htext⟩ := x.exists_display
  simp [displayText, htext]

theorem displayText_of_display {x : Binary64} {text : String} (h : x.display = .ok text) :
    x.displayText = text := by
  rw [display_eq, Except.ok.injEq] at h
  exact h

end Binary64

namespace Machine

/-- What a token leads to.  Stacks have their topmost value first. -/
inductive Effect where
  /-- The token is fed: the stack after it, and the text of its action. -/
  | fed (stack : List Binary64) (action : String)
  /-- The token fails and leaves this stack. -/
  | failed (error : EvalError) (stack : List Binary64)

/-- What a token does to a stack. -/
inductive Feeds (token : String) : List Binary64 → Effect → Prop
  | number {x : Binary64} {stack : List Binary64} (h : Token.number? token = .ok (some x)) :
      Feeds token stack (.fed (x :: stack) s!"Push {token}")
  | unknown {stack : List Binary64} (h : Token.number? token = .ok none)
      (hop : Operator.ofSymbol? token = none) :
      Feeds token stack (.failed (.unknownToken token) stack)
  | short {op : Operator} {stack : List Binary64} (hop : Operator.ofSymbol? token = some op)
      (hlen : stack.length < op.arity) :
      Feeds token stack (.failed (.insufficientOperands (some op)) stack)
  | unary {op : UnaryOperator} {only value : Binary64} {rest : List Binary64}
      (hop : Operator.ofSymbol? token = some (.unary op)) (h : op.apply only = .ok value) :
      Feeds token (only :: rest)
        (.fed (value :: rest) s!"Apply {op.symbol} to {only.displayText}")
  | unaryFails {op : UnaryOperator} {only : Binary64} {rest : List Binary64} {e : EvalError}
      (hop : Operator.ofSymbol? token = some (.unary op))
      (h : op.apply only = .error (.expression e)) :
      Feeds token (only :: rest) (.failed e rest)
  | binary {op : BinaryOperator} {left right value : Binary64} {rest : List Binary64}
      (hop : Operator.ofSymbol? token = some (.binary op)) (h : op.apply left right = .ok value) :
      Feeds token (right :: left :: rest)
        (.fed (value :: rest) s!"Apply {left.displayText} {op.symbol} {right.displayText}")
  | binaryFails {op : BinaryOperator} {left right : Binary64} {rest : List Binary64}
      {e : EvalError} (hop : Operator.ofSymbol? token = some (.binary op))
      (h : op.apply left right = .error (.expression e)) :
      Feeds token (right :: left :: rest) (.failed e rest)

/-- The step of a token that is fed. -/
def stepOf (token : String) (stack : List Binary64) (action : String) : Step where
  token := token
  stack := stack.reverse
  action := action

/-- An effect on a machine that has recorded some steps. -/
def Effect.onto (token : String) (steps : Option (List Step)) :
    Effect → EStateM.Result Failure Machine Unit
  | .fed stack action => .ok () { stack, steps := steps.map (· ++ [stepOf token stack action]) }
  | .failed e stack => .error (.expression e) { stack, steps }

/-! ## One token -/

variable {token : String} {stack stack' stack'' left : List Binary64} {action : String}
  {e : EvalError} {r r' : Effect}

/-- The machine does what `Feeds` says, whatever it has recorded. -/
theorem Feeds.feed_eq (h : Feeds token stack r) (steps : Option (List Step)) :
    feed token { stack, steps } = r.onto token steps := by
  cases h with
  | number h =>
      rw [feed_of_number _ h]
      rfl
  | unknown h hop => exact feed_of_unknown _ h hop
  | @short op _ hop hlen =>
      have hnumber := Token.number?_of_ofSymbol? hop
      cases op with
      | unary op =>
          rw [feed_of_unary _ hnumber hop]
          exact applyUnary_of_lt hlen
      | binary op =>
          rw [feed_of_binary _ hnumber hop]
          exact applyBinary_of_lt hlen
  | unary hop h =>
      rw [feed_of_unary _ (Token.number?_of_ofSymbol? hop) hop,
        applyUnary_of_ok h (Binary64.display_eq _)]
      rfl
  | unaryFails hop h =>
      rw [feed_of_unary _ (Token.number?_of_ofSymbol? hop) hop, applyUnary_of_error h]
      rfl
  | binary hop h =>
      rw [feed_of_binary _ (Token.number?_of_ofSymbol? hop) hop,
        applyBinary_of_ok h (Binary64.display_eq _) (Binary64.display_eq _)]
      rfl
  | binaryFails hop h =>
      rw [feed_of_binary _ (Token.number?_of_ofSymbol? hop) hop, applyBinary_of_error h]
      rfl

theorem exists_feeds_unary {op : UnaryOperator}
    (hop : Operator.ofSymbol? token = some (.unary op)) (stack : List Binary64) :
    ∃ r, Feeds token stack r := by
  cases stack with
  | nil => exact ⟨_, .short hop (by simp [Operator.arity])⟩
  | cons only rest =>
      cases happly : op.apply only with
      | ok value => exact ⟨_, .unary hop happly⟩
      | error e =>
          obtain ⟨-, -, rfl⟩ := UnaryOperator.apply_eq_error_iff.1 happly
          exact ⟨_, .unaryFails hop happly⟩

theorem exists_feeds_binary {op : BinaryOperator}
    (hop : Operator.ofSymbol? token = some (.binary op)) (stack : List Binary64) :
    ∃ r, Feeds token stack r := by
  rcases stack with _ | ⟨right, _ | ⟨left, rest⟩⟩
  · exact ⟨_, .short hop (by simp [Operator.arity])⟩
  · exact ⟨_, .short hop (by simp [Operator.arity])⟩
  · cases happly : op.apply left right with
    | ok value => exact ⟨_, .binary hop happly⟩
    | error e =>
        obtain ⟨-, -, rfl⟩ := BinaryOperator.apply_eq_error_iff.1 happly
        exact ⟨_, .binaryFails hop happly⟩

/-- Every token does something to every stack. -/
theorem exists_feeds (token : String) (stack : List Binary64) : ∃ r, Feeds token stack r := by
  obtain ⟨number, hnumber⟩ := Token.exists_number? token
  cases number with
  | some x => exact ⟨_, .number hnumber⟩
  | none =>
      cases hop : Operator.ofSymbol? token with
      | none => exact ⟨_, .unknown hnumber hop⟩
      | some op =>
          cases op with
          | unary op => exact exists_feeds_unary hop stack
          | binary op => exact exists_feeds_binary hop stack

/-- A token that the machine is fed does to its stack what `Feeds` says, and there is a step for
it. -/
theorem feeds_of_feed_eq_ok {m m' : Machine} (h : feed token m = .ok () m') :
    ∃ action, Feeds token m.stack (.fed m'.stack action) ∧
      m'.steps = m.steps.map (· ++ [stepOf token m'.stack action]) := by
  obtain ⟨r, hr⟩ := exists_feeds token m.stack
  have heq := hr.feed_eq m.steps
  rw [h] at heq
  cases r with
  | failed e left => contradiction
  | fed stack action =>
      cases heq
      exact ⟨action, hr, rfl⟩

/-- A token that the machine fails on does to its stack what `Feeds` says, and to nothing
else. -/
theorem feeds_of_feed_eq_error {m m' : Machine} {f : Failure} (h : feed token m = .error f m') :
    ∃ e, f = .expression e ∧ Feeds token m.stack (.failed e m'.stack) ∧ m'.steps = m.steps := by
  obtain ⟨r, hr⟩ := exists_feeds token m.stack
  have heq := hr.feed_eq m.steps
  rw [h] at heq
  cases r with
  | fed stack action => contradiction
  | failed e left =>
      cases heq
      exact ⟨e, rfl, hr, rfl⟩

/-- A token does one thing only. -/
theorem Feeds.unique (h : Feeds token stack r) (h' : Feeds token stack r') : r = r' := by
  -- Both are what the machine does, and a machine that records its steps shows all of it.
  have heq : r.onto token (some []) = r'.onto token (some []) := by
    rw [← h.feed_eq, ← h'.feed_eq]
  cases r with
  | fed s a =>
      cases r' with
      | fed s' a' =>
          simp only [Effect.onto, stepOf, Option.map_some, List.nil_append,
            EStateM.Result.ok.injEq, Machine.mk.injEq, Option.some.injEq, List.cons.injEq,
            Step.mk.injEq] at heq
          obtain ⟨-, rfl, ⟨-, -, rfl⟩, -⟩ := heq
          rfl
      | failed e' s' => simp [Effect.onto] at heq
  | failed e s =>
      cases r' with
      | fed s' a' => simp [Effect.onto] at heq
      | failed e' s' =>
          simp only [Effect.onto, EStateM.Result.error.injEq, Failure.expression.injEq,
            Machine.mk.injEq] at heq
          obtain ⟨rfl, rfl, -⟩ := heq
          rfl

/-- What a token fails with, and what it has taken off the stack then: nothing, unless it is an
operator that has its operands. -/
theorem Feeds.failed_cases (h : Feeds token stack (.failed e left)) :
    (e = .unknownToken token ∧ stack = left) ∨
      (∃ op, e = .insufficientOperands (some op) ∧ stack = left) ∨
      (e = .divisionByZero ∧ ∃ x y, stack = x :: y :: left) ∨
      ∃ x, e = .negativeSqrt x ∧ stack = x :: left := by
  cases h with
  | unknown h hop => exact .inl ⟨rfl, rfl⟩
  | short hop hlen => exact .inr (.inl ⟨_, rfl, rfl⟩)
  | binaryFails hop h =>
      obtain ⟨-, -, he⟩ := BinaryOperator.apply_eq_error_iff.1 h
      cases he
      exact .inr (.inr (.inl ⟨rfl, _, _, rfl⟩))
  | unaryFails hop h =>
      obtain ⟨-, -, he⟩ := UnaryOperator.apply_eq_error_iff.1 h
      cases he
      exact .inr (.inr (.inr ⟨_, rfl, rfl⟩))

/-- A token that is fed leaves a value on the stack. -/
theorem Feeds.ne_nil (h : Feeds token stack (.fed stack' action)) : stack' ≠ [] := by
  cases h <;> simp

/-! ## Lists of tokens -/

/-- All tokens are fed to a stack, which ends as the second one, with these
steps. -/
inductive FeedsAll : List Binary64 → List String → List Binary64 → List Step → Prop
  | nil {stack : List Binary64} : FeedsAll stack [] stack []
  | cons {token : String} {rest : List String} {stack stack' stack'' : List Binary64}
      {action : String} {steps : List Step} (h : Feeds token stack (.fed stack' action))
      (hrest : FeedsAll stack' rest stack'' steps) :
      FeedsAll stack (token :: rest) stack'' (stepOf token stack' action :: steps)

/-- Tokens are fed to a stack up to one that fails with this error; the stack
that it leaves and the steps before it. -/
inductive FailsIn : List Binary64 → List String → EvalError → List Binary64 → List Step → Prop
  | head {token : String} {rest : List String} {stack left : List Binary64} {e : EvalError}
      (h : Feeds token stack (.failed e left)) : FailsIn stack (token :: rest) e left []
  | tail {token : String} {rest : List String} {stack stack' left : List Binary64}
      {action : String} {e : EvalError} {steps : List Step}
      (h : Feeds token stack (.fed stack' action)) (hrest : FailsIn stack' rest e left steps) :
      FailsIn stack (token :: rest) e left (stepOf token stack' action :: steps)

variable {tokens tokens' : List String} {more more' : List Step}

theorem FeedsAll.feedAll_eq (h : FeedsAll stack tokens stack' more)
    (steps : Option (List Step)) :
    feedAll tokens { stack, steps } =
      .ok () { stack := stack', steps := steps.map (· ++ more) } := by
  induction h generalizing steps with
  | nil => cases steps <;> simp [feedAll_nil]
  | cons h hrest ih =>
      rw [feedAll_cons_of_ok (h.feed_eq steps), ih]
      cases steps <;> simp

theorem FailsIn.feedAll_eq (h : FailsIn stack tokens e left more)
    (steps : Option (List Step)) :
    feedAll tokens { stack, steps } =
      .error (.expression e) { stack := left, steps := steps.map (· ++ more) } := by
  induction h generalizing steps with
  | head h =>
      rw [feedAll_cons_of_error (h.feed_eq steps)]
      cases steps <;> simp
  | tail h hrest ih =>
      rw [feedAll_cons_of_ok (h.feed_eq steps), ih]
      cases steps <;> simp

/-- Feeding tokens to a stack comes to the end of them or fails in them. -/
theorem feedsAll_or_failsIn (tokens : List String) (stack : List Binary64) :
    (∃ stack' steps, FeedsAll stack tokens stack' steps) ∨
      ∃ e left steps, FailsIn stack tokens e left steps := by
  -- Feeding the first token leaves another stack for those after it.
  induction tokens generalizing stack with
  | nil => exact .inl ⟨_, _, .nil⟩
  | cons token rest ih =>
      obtain ⟨r, hr⟩ := exists_feeds token stack
      cases r with
      | failed e left => exact .inr ⟨_, _, _, .head hr⟩
      | fed stack' action =>
          rcases ih stack' with ⟨_, _, hrest⟩ | ⟨_, _, _, hrest⟩
          · exact .inl ⟨_, _, .cons hr hrest⟩
          · exact .inr ⟨_, _, _, .tail hr hrest⟩

theorem FeedsAll.append (h : FeedsAll stack tokens stack' more)
    (h' : FeedsAll stack' tokens' stack'' more') :
    FeedsAll stack (tokens ++ tokens') stack'' (more ++ more') := by
  induction h with
  | nil => exact h'
  | cons h _ ih => exact .cons h (ih h')

theorem FeedsAll.append_failsIn (h : FeedsAll stack tokens stack' more)
    (h' : FailsIn stack' tokens' e left more') :
    FailsIn stack (tokens ++ tokens') e left (more ++ more') := by
  induction h with
  | nil => exact h'
  | cons h _ ih => exact .tail h (ih h')

theorem FeedsAll.of_append (h : FeedsAll stack (tokens ++ tokens') stack' more) :
    ∃ middle steps₁ steps₂, FeedsAll stack tokens middle steps₁ ∧
      FeedsAll middle tokens' stack' steps₂ ∧ more = steps₁ ++ steps₂ := by
  induction tokens generalizing stack more with
  | nil => exact ⟨_, _, _, .nil, h, rfl⟩
  | cons token rest ih =>
      cases h with
      | cons h hrest =>
          obtain ⟨middle, steps₁, steps₂, h₁, h₂, rfl⟩ := ih hrest
          exact ⟨_, _, _, .cons h h₁, h₂, rfl⟩

/-- There is one token that fails, and those before it are fed. -/
theorem FailsIn.exists_feeds (h : FailsIn stack tokens e left more) :
    ∃ before token after middle, tokens = before ++ token :: after ∧
      FeedsAll stack before middle more ∧ Feeds token middle (.failed e left) := by
  induction h with
  | head h => exact ⟨[], _, _, _, rfl, .nil, h⟩
  | tail h _ ih =>
      obtain ⟨before, token, after, middle, rfl, hfeeds, hfails⟩ := ih
      exact ⟨_ :: before, token, after, middle, rfl, .cons h hfeeds, hfails⟩

/-- What stands after the token that fails does not matter. -/
theorem FailsIn.append (h : FailsIn stack tokens e left more) (after : List String) :
    FailsIn stack (tokens ++ after) e left more := by
  induction h with
  | head h => exact .head h
  | tail h _ ih => exact .tail h ih

theorem FeedsAll.singleton (h : Feeds token stack (.fed stack' action)) :
    FeedsAll stack [token] stack' [stepOf token stack' action] :=
  .cons h .nil

/-- There is a step for every token, in order. -/
theorem FeedsAll.map_token (h : FeedsAll stack tokens stack' more) :
    more.map Step.token = tokens := by
  induction h with
  | nil => rfl
  | cons h _ ih => rw [List.map_cons, ih, stepOf]

/-- The last step shows the final stack. -/
theorem FeedsAll.getLast?_stack (h : FeedsAll stack tokens stack' more) (hne : tokens ≠ []) :
    more.getLast?.map Step.stack = some stack'.reverse := by
  -- The last step is the first one only if no token follows; hence the second case split.
  induction h with
  | nil => exact absurd rfl hne
  | cons h hrest ih =>
      cases hrest with
      | nil => rfl
      | cons h' hrest' =>
          rw [List.getLast?_cons_cons]
          exact ih (by simp)

/-- After tokens there is a value on the stack. -/
theorem FeedsAll.ne_nil (h : FeedsAll stack tokens stack' more) (hne : tokens ≠ []) :
    stack' ≠ [] := by
  induction h with
  | nil => exact absurd rfl hne
  | cons h hrest ih =>
      cases hrest with
      | nil => exact h.ne_nil
      | cons h' hrest' => exact ih (by simp)

end Machine

end PostfixCalc
