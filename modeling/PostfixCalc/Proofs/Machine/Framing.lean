import PostfixCalc.Proofs.Machine.Recording

/-!
# What lies below the stack

Tokens do not look below their operands.  On a deeper stack they are fed as before, or the
same one of them fails in the same way; what lies below is kept, and the steps show it
below their stacks (`feedAll_frame`).  The one exception is an operator that finds too few
operands, which may find them on a deeper stack.

The law holds of one token (`Feeds.frame`, `Feeds.frame_failed`), and from there of any
list of them.
-/

namespace PostfixCalc

/-- The step with more values below its stack. -/
def Step.above (step : Step) (below : List Binary64) : Step :=
  { step with stack := below.reverse ++ step.stack }

namespace Machine

/-- A token that was fed, and how that ended. -/
structure Attempt where
  token : String
  answer : Except Failure Unit

/-- The tokens that are fed in order, with the answer to each.  None is fed after one that
fails. -/
def attempts : Machine → List String → List Attempt
  | _, [] => []
  | m, token :: rest =>
      match feed token m with
      | .ok answer m' => { token, answer := .ok answer } :: attempts m' rest
      | .error e _ => [{ token, answer := .error e }]

variable {token action : String} {tokens : List String}
  {stack stack' left : List Binary64} {more : List Step} {e : EvalError}

/-! ## Answers to tokens -/

theorem attempts_cons_of_ok {m m' : Machine} (h : feed token m = .ok () m')
    (rest : List String) :
    attempts m (token :: rest) = { token, answer := .ok () } :: attempts m' rest := by
  show (match feed token m with
    | .ok answer m' => Attempt.mk token (.ok answer) :: attempts m' rest
    | .error e _ => [Attempt.mk token (.error e)]) = _
  rw [h]

theorem attempts_cons_of_error {m m' : Machine} {f : Failure} (h : feed token m = .error f m')
    (rest : List String) : attempts m (token :: rest) = [{ token, answer := .error f }] := by
  show (match feed token m with
    | .ok answer m' => Attempt.mk token (.ok answer) :: attempts m' rest
    | .error e _ => [Attempt.mk token (.error e)]) = _
  rw [h]

theorem FeedsAll.attempts_eq (h : FeedsAll stack tokens stack' more)
    (steps : Option (List Step)) :
    attempts { stack, steps } tokens = tokens.map fun token => { token, answer := .ok () } := by
  induction h generalizing steps with
  | nil => rfl
  | cons h _ ih => rw [attempts_cons_of_ok (h.feed_eq steps), ih, List.map_cons]

/-! ## Deeper stacks -/

/-- A token that is fed does not look below its operands. -/
theorem Feeds.frame (h : Feeds token stack (.fed stack' action)) (below : List Binary64) :
    Feeds token (stack ++ below) (.fed (stack' ++ below) action) := by
  cases h with
  | number h => exact .number h
  | unary hop h => exact .unary hop h
  | binary hop h => exact .binary hop h

/-- Neither does a token that fails, unless it looks for operands that are not there. -/
theorem Feeds.frame_failed (h : Feeds token stack (.failed e left))
    (hshort : ∀ op, e ≠ .insufficientOperands op) (below : List Binary64) :
    Feeds token (stack ++ below) (.failed e (left ++ below)) := by
  cases h with
  | unknown h hop => exact .unknown h hop
  | short hop hlen => exact absurd rfl (hshort _)
  | unaryFails hop h => exact .unaryFails hop h
  | binaryFails hop h => exact .binaryFails hop h

theorem stepOf_append (token : String) (stack below : List Binary64) (action : String) :
    stepOf token (stack ++ below) action = (stepOf token stack action).above below := by
  simp [stepOf, Step.above]

/-- What lies below the stack of some tokens is kept. -/
theorem FeedsAll.frame (h : FeedsAll stack tokens stack' more) (below : List Binary64) :
    FeedsAll (stack ++ below) tokens (stack' ++ below) (more.map (·.above below)) := by
  induction h with
  | nil => exact .nil
  | cons h _ ih =>
      rw [List.map_cons, ← stepOf_append]
      exact .cons (h.frame below) ih

/-- So is it where one of the tokens fails. -/
theorem FailsIn.frame (h : FailsIn stack tokens e left more)
    (hshort : ∀ op, e ≠ .insufficientOperands op) (below : List Binary64) :
    FailsIn (stack ++ below) tokens e (left ++ below) (more.map (·.above below)) := by
  induction h with
  | head h => exact .head (h.frame_failed hshort below)
  | tail h _ ih =>
      rw [List.map_cons, ← stepOf_append]
      exact .tail (h.frame below) (ih hshort)

/-- The token that fails on the deeper stack is the same. -/
theorem FailsIn.attempts_frame (h : FailsIn stack tokens e left more)
    (hshort : ∀ op, e ≠ .insufficientOperands op) (below : List Binary64)
    (steps steps' : Option (List Step)) :
    attempts { stack := stack ++ below, steps := steps' } tokens =
      attempts { stack, steps } tokens := by
  induction h generalizing steps steps' with
  | head h =>
      have hdeep := h.frame_failed hshort below
      rw [attempts_cons_of_error (h.feed_eq steps), attempts_cons_of_error (hdeep.feed_eq steps')]
  | tail h _ ih =>
      have hdeep := h.frame below
      rw [attempts_cons_of_ok (h.feed_eq steps), attempts_cons_of_ok (hdeep.feed_eq steps'),
        ih hshort]

/-- The errors of tokens that do not run short of operands. -/
theorem FailsIn.error_cases (h : FailsIn stack tokens e left more)
    (hshort : ∀ op, e ≠ .insufficientOperands op) :
    (∃ token ∈ tokens, e = .unknownToken token) ∨ e = .divisionByZero ∨
      ∃ x, e = .negativeSqrt x := by
  obtain ⟨before, token, after, middle, rfl, -, htoken⟩ := h.exists_feeds
  rcases htoken.failed_cases with ⟨he, -⟩ | ⟨op, he, -⟩ | ⟨he, -⟩ | ⟨x, he, -⟩
  · exact .inl ⟨token, by simp, he⟩
  · exact absurd he (hshort _)
  · exact .inr (.inl he)
  · exact .inr (.inr ⟨x, he⟩)

/-- Tokens that do not run short of operands do the same on any deeper stack: all are fed, or
the same one fails with the same error.  What lies below stays there, under the stack that is
left otherwise, and the same steps are recorded with it below their stacks. -/
theorem feedAll_frame (tokens : List String) (stack below : List Binary64)
    (recorded : Option (List Step))
    (h : ∀ op, (outcome (feedAll tokens { stack, steps := recorded })).1 ≠
      .error (.expression (.insufficientOperands op))) :
    ∃ answer left more,
      (answer = .ok () ∨ ∃ e, answer = .error (.expression e) ∧
        ((∃ token ∈ tokens, e = .unknownToken token) ∨ e = .divisionByZero ∨
          ∃ x, e = .negativeSqrt x)) ∧
      ∀ steps,
        outcome (feedAll tokens { stack, steps }) =
          (answer, { stack := left, steps := steps.map (· ++ more) }) ∧
        outcome (feedAll tokens { stack := stack ++ below, steps }) =
          (answer, { stack := left ++ below, steps := steps.map (· ++ more.map (·.above below)) }) ∧
        attempts { stack := stack ++ below, steps } tokens = attempts { stack, steps } tokens := by
  rcases feedsAll_or_failsIn tokens stack with ⟨left, more, hfeeds⟩ | ⟨e, left, more, hfails⟩
  · refine ⟨.ok (), left, more, .inl rfl, fun steps => ?_⟩
    have hdeep := hfeeds.frame below
    rw [hfeeds.feedAll_eq, hdeep.feedAll_eq, hfeeds.attempts_eq, hdeep.attempts_eq]
    exact ⟨rfl, rfl, rfl⟩
  · rw [hfails.feedAll_eq] at h
    have hshort : ∀ op, e ≠ .insufficientOperands op := by
      rintro op rfl
      exact h op rfl
    refine ⟨.error (.expression e), left, more, .inr ⟨e, rfl, hfails.error_cases hshort⟩,
      fun steps => ?_⟩
    rw [hfails.feedAll_eq, (hfails.frame hshort below).feedAll_eq,
      hfails.attempts_frame hshort below steps]
    exact ⟨rfl, rfl, rfl⟩

/-- A quotient by zero takes its operands off the deeper stack too, and nothing below them. -/
theorem feedAll_frame_quotient :
    outcome (feedAll ["0", "/", "+"] { stack := [.one], steps := none }) =
        (.error (.expression .divisionByZero), { stack := [], steps := none }) ∧
      outcome (feedAll ["0", "/", "+"] { stack := [.one, .nan], steps := none }) =
        (.error (.expression .divisionByZero), { stack := [.nan], steps := none }) ∧
      attempts { stack := [.one, .nan], steps := none } ["0", "/", "+"] =
        attempts { stack := [.one], steps := none } ["0", "/", "+"] := by
  have halone : outcome (feedAll ["0", "/", "+"] { stack := [.one], steps := none }) =
      (.error (.expression .divisionByZero), { stack := [], steps := none }) := by
    decide +kernel
  obtain ⟨answer, left, more, -, hsame⟩ :=
    feedAll_frame ["0", "/", "+"] [.one] [.nan] none (by simp [halone])
  obtain ⟨hshallow, hdeep, hattempts⟩ := hsame none
  rw [halone] at hshallow
  cases hshallow
  exact ⟨halone, hdeep, hattempts⟩

-- An operator that runs short of operands finds them on the deeper stack.
example :
    (outcome (feedAll ["+"] { stack := [.one], steps := none })).1 =
        .error (.expression (.insufficientOperands (some (.binary .add)))) ∧
      (outcome (feedAll ["+"] { stack := [.one, .one], steps := none })).1 = .ok () := by
  decide +kernel

end Machine

end PostfixCalc
