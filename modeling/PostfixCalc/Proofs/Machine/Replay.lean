import PostfixCalc.Proofs.Machine.ClosedErrors

/-!
# Traces replay

The steps of a trace can be replayed without the machine that recorded them: each step
follows from the stack that the step before it shows, the first one from the empty stack, by
its token alone (`Step.Follows`).  A number is put on top as it is written; an operator takes
its operands off the top, the right one first, and shows them as they were before it was
applied.  No later call changes a step, so what was recorded stays at the front of what is
recorded then.
-/

namespace PostfixCalc

/-- The step follows from the stack before it, by its token alone.  Stacks have their bottom
first. -/
inductive Step.Follows : List Binary64 → Step → Prop
  | number {before : List Binary64} {token : String} {x : Binary64}
      (h : Token.number? token = .ok (some x)) :
      Follows before { token, stack := before ++ [x], action := s!"Push {token}" }
  | unary {below : List Binary64} {token operand : String} {op : UnaryOperator}
      {a value : Binary64} (hop : Operator.ofSymbol? token = some (.unary op))
      (h : op.apply a = .ok value) (hoperand : a.display = .ok operand) :
      Follows (below ++ [a])
        { token, stack := below ++ [value], action := s!"Apply {op.symbol} to {operand}" }
  | binary {below : List Binary64} {token first second : String} {op : BinaryOperator}
      {a b value : Binary64} (hop : Operator.ofSymbol? token = some (.binary op))
      (h : op.apply a b = .ok value) (hfirst : a.display = .ok first)
      (hsecond : b.display = .ok second) :
      Follows (below ++ [a, b])
        { token, stack := below ++ [value], action := s!"Apply {first} {op.symbol} {second}" }

namespace Machine

variable {token action : String} {tokens : List String} {stack stack' : List Binary64}
  {more : List Step}

/-! ## One step -/

/-- The step of a token that is fed follows from the stack that it found. -/
theorem Feeds.follows (h : Feeds token stack (.fed stack' action)) :
    (stepOf token stack' action).Follows stack.reverse := by
  cases h with
  | number h =>
      rw [stepOf, List.reverse_cons]
      exact .number h
  | unary hop h =>
      rw [stepOf, List.reverse_cons, List.reverse_cons]
      exact .unary hop h (Binary64.display_eq _)
  | @binary op left right value rest hop h =>
      have hstack : (right :: left :: rest).reverse = rest.reverse ++ [left, right] := by simp
      rw [stepOf, hstack, List.reverse_cons]
      exact .binary hop h (Binary64.display_eq _) (Binary64.display_eq _)

/-- Feeding the token of a step that follows has the effect that the step shows. -/
theorem feeds_of_follows {before : List Binary64} {step : Step} (h : step.Follows before) :
    Feeds step.token before.reverse (.fed step.stack.reverse step.action) := by
  cases h with
  | number h =>
      rw [List.reverse_append]
      exact .number h
  | unary hop h hoperand =>
      rw [List.reverse_append, List.reverse_append,
        ← Binary64.displayText_of_display hoperand]
      exact .unary hop h
  | binary hop h hfirst hsecond =>
      rw [List.reverse_append, List.reverse_append,
        ← Binary64.displayText_of_display hfirst, ← Binary64.displayText_of_display hsecond]
      exact .binary hop h

/-- A stack and a token have one step that follows. -/
theorem eq_of_follows {before : List Binary64} {step other : Step} (h : step.Follows before)
    (h' : other.Follows before) (htoken : other.token = step.token) : other = step := by
  have hother := feeds_of_follows h'
  rw [htoken] at hother
  obtain ⟨token, stack, action⟩ := step
  obtain ⟨token', stack', action'⟩ := other
  have heffect := hother.unique (feeds_of_follows h)
  simp only [Effect.fed.injEq, List.reverse_inj] at heffect
  obtain ⟨rfl, rfl⟩ := heffect
  obtain rfl : token' = token := htoken
  rfl

/-! ## All steps -/

/-- Each step follows from the stack that the step before it shows. -/
theorem FeedsAll.follows (h : FeedsAll stack tokens stack' more) {i : Nat} {step : Step}
    (hi : more[i]? = some step) :
    ∃ before, (stack.reverse :: more.map Step.stack)[i]? = some before ∧ step.Follows before := by
  -- The steps after the first start from the stack that the first one shows.
  induction h generalizing i with
  | nil => simp at hi
  | @cons token rest stack stack' _ action steps h hrest ih =>
      cases i with
      | zero =>
          obtain rfl : stepOf token stack' action = step := by simpa using hi
          exact ⟨stack.reverse, rfl, h.follows⟩
      | succ i =>
          rw [List.getElem?_cons_succ] at hi
          exact ih hi

/-- The tokens of an expression that has a trace leave one value, with these steps. -/
theorem exists_feedsAll_of_trace {expression : Option String} {steps : List Step}
    (h : trace expression = .ok steps) :
    ∃ tokens x, Token.ofExpression expression = .ok tokens ∧ FeedsAll [] tokens [x] steps := by
  obtain ⟨answer, _, more, hruns⟩ := exists_runs expression []
  rw [trace_of_runs hruns] at h
  cases hruns with
  | blank hblank => contradiction
  | fails htokens hfails => contradiction
  | tooMany htokens hfeeds => contradiction
  | value htokens hfeeds =>
      obtain rfl : more = steps := Except.ok.inj h
      exact ⟨_, _, htokens, hfeeds⟩

/-! ## Later calls -/

/-- To recorded steps a call can only append. -/
theorem Call.exists_steps_append (call : Call) (m : Machine) :
    ∃ more, (outcome (call.action m)).2.steps = m.steps.map (· ++ more) := by
  obtain ⟨answer, stack, more, heq⟩ := call.ignoresSteps m.stack
  exact ⟨more, by rw [heq m.steps]⟩

theorem exists_isPrefix_after {recorded : List Step} (calls : List Call) {m : Machine}
    (h : m.steps = some recorded) :
    ∃ later, (after m calls).steps = some later ∧ recorded <+: later := by
  induction calls generalizing m recorded with
  | nil => exact ⟨recorded, h, List.prefix_rfl⟩
  | cons call rest ih =>
      obtain ⟨more, hmore⟩ := call.exists_steps_append m
      rw [h, Option.map_some] at hmore
      obtain ⟨later, hlater, hle⟩ := ih hmore
      exact ⟨later, hlater, (List.prefix_append recorded more).trans hle⟩

end Machine

open Machine

/-- A trace has a step for every token, in order, and each step follows from the stack that the
step before it shows, or from the empty stack: no other step with that token does.  Steps that a
machine has recorded stay as they are, whatever calls come after. -/
theorem trace_replays :
    (∀ (expression : Option String) (steps : List Step), trace expression = .ok steps →
      Token.ofExpression expression = .ok (steps.map Step.token) ∧
      ∀ (i : Nat) (step : Step), steps[i]? = some step →
        ∃ before, ([] :: steps.map Step.stack)[i]? = some before ∧ step.Follows before ∧
          ∀ other : Step, other.Follows before → other.token = step.token → other = step) ∧
    ∀ (m : Machine) (recorded : List Step), m.steps = some recorded →
      ∀ calls : List Call, ∃ later, (after m calls).steps = some later ∧ recorded <+: later := by
  refine ⟨?_, fun m recorded h calls => exists_isPrefix_after calls h⟩
  intro expression steps h
  obtain ⟨tokens, x, htokens, hfeeds⟩ := exists_feedsAll_of_trace h
  rw [hfeeds.map_token]
  refine ⟨htokens, ?_⟩
  intro i step hi
  obtain ⟨before, hbefore, hfollows⟩ := hfeeds.follows hi
  exact ⟨before, hbefore, hfollows, fun other hother => eq_of_follows hfollows hother⟩

/-- The inner difference of two is taken from the top of a stack of three, in the order in which
its operands were written, and a failing call later leaves its step alone. -/
theorem trace_replays_difference :
    ∃ steps step before, trace (some "7 2 3 - -") = .ok steps ∧ steps[3]? = some step ∧
      step.Follows before ∧ before.length = 3 ∧ step.action = "Apply 2 - 3" ∧
      ∃ later, (after { stack := [], steps := some steps } [.feed "+"]).steps = some later ∧
        steps <+: later := by
  have htrace : trace (some "7 2 3 - -") = .ok (journal (some "7 2 3 - -")) := by
    decide +kernel
  have haction : (journal (some "7 2 3 - -"))[3]?.map Step.action = some "Apply 2 - 3" := by
    decide +kernel
  have hlength : ([] :: (journal (some "7 2 3 - -")).map Step.stack)[3]?.map List.length =
      some 3 := by
    decide +kernel
  obtain ⟨step, hstep, haction⟩ := Option.map_eq_some_iff.1 haction
  obtain ⟨before, hbefore, hfollows, -⟩ := (trace_replays.1 _ _ htrace).2 3 step hstep
  rw [hbefore, Option.map_some, Option.some.injEq] at hlength
  exact ⟨_, step, before, htrace, hstep, hfollows, hlength, haction,
    trace_replays.2 _ _ rfl [.feed "+"]⟩

end PostfixCalc
