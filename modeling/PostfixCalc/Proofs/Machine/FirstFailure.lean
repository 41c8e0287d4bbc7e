import PostfixCalc.Proofs.Machine.Running

/-!
# The first failure decides

How an expression ends can be told from its tokens: the depth of the stack after
some of them is the number of their numbers less the number of their operators of
two operands.  A token fails where it stands if it is neither number nor
operator, if it is an operator that needs more operands than there are, if it is
a quotient by zero, or if it is the square root of a number below zero.

The first token that fails decides which error an expression ends with
(`failsIn_of_first`).  If none does, the depth in the end does.
-/

namespace PostfixCalc

namespace Token

def isNumber (token : String) : Bool :=
  match number? token with
  | .ok (some _) => true
  | _ => false

/-- Is the token an operator of two operands? -/
def isBinary (token : String) : Bool :=
  match Operator.ofSymbol? token with
  | some (.binary _) => true
  | _ => false

/-- Numbers less operators of two operands. -/
def depth (tokens : List String) : Int :=
  tokens.countP isNumber - tokens.countP isBinary

@[simp] theorem depth_nil : depth [] = 0 :=
  rfl

theorem depth_append (tokens tokens' : List String) :
    depth (tokens ++ tokens') = depth tokens + depth tokens' := by
  simp only [depth, List.countP_append]
  omega

theorem isNumber_of_number? {token : String} {x : Binary64} (h : number? token = .ok (some x)) :
    isNumber token = true := by
  simp [isNumber, h]

theorem number?_of_not_isNumber {token : String} (h : isNumber token = false) :
    number? token = .ok none := by
  obtain ⟨value, hvalue⟩ := exists_number? token
  cases value with
  | none => exact hvalue
  | some x =>
      rw [isNumber_of_number? hvalue] at h
      contradiction

theorem not_isNumber_of_number? {token : String} (h : number? token = .ok none) :
    isNumber token = false := by
  simp [isNumber, h]

end Token

namespace Machine

open Token

variable {token : String} {tokens before after : List String} {stack stack' left : List Binary64}
  {e : EvalError} {steps : List Step} {i : Nat}

/-- A token that is fed moves the height of the stack by its depth. -/
theorem Feeds.length_eq {action : String} (h : Feeds token stack (.fed stack' action)) :
    (stack'.length : Int) = stack.length + depth [token] := by
  cases h with
  | @number x _ h =>
      have hbinary : isBinary token = false := by
        cases hop : Operator.ofSymbol? token with
        | none => simp [isBinary, hop]
        | some op =>
            rw [number?_of_ofSymbol? hop] at h
            simp at h
      have hdepth : depth [token] = 1 := by
        simp [depth, isNumber_of_number? h, hbinary]
      simp only [List.length_cons, hdepth]
      omega
  | unary hop _ =>
      have hnumber := not_isNumber_of_number? (number?_of_ofSymbol? hop)
      have hdepth : depth [token] = 0 := by
        simp [depth, hnumber, isBinary, hop]
      simp only [List.length_cons, hdepth]
      omega
  | binary hop _ =>
      have hnumber := not_isNumber_of_number? (number?_of_ofSymbol? hop)
      have hdepth : depth [token] = -1 := by
        simp [depth, hnumber, isBinary, hop]
      simp only [List.length_cons, hdepth]
      omega

theorem FeedsAll.length_eq (h : FeedsAll stack tokens stack' steps) :
    (stack'.length : Int) = stack.length + depth tokens := by
  induction h with
  | nil => simp
  | @cons token rest _ _ _ _ _ h _ ih =>
      have hlength := h.length_eq
      have hdepth := depth_append [token] rest
      rw [List.singleton_append] at hdepth
      omega

/-- The tokens are fed to a new machine, which has this stack then. -/
def StackAfter (tokens : List String) (stack : List Binary64) : Prop :=
  feedAll tokens (.new false) = .ok () { stack, steps := none }

/-- The error with which a token fails after other tokens. -/
inductive FailsAfter (before : List String) (token : String) : EvalError → Prop
  | unknownToken (hnumber : isNumber token = false)
      (hop : Operator.ofSymbol? token = none) :
      FailsAfter before token (.unknownToken token)
  | insufficientOperands {op : Operator} (hop : Operator.ofSymbol? token = some op)
      (hdepth : depth before < op.arity) :
      FailsAfter before token (.insufficientOperands (some op))
  | divisionByZero {right left : Binary64} {rest : List Binary64} (htoken : token = "/")
      (hstack : StackAfter before (right :: left :: rest)) (hzero : right.isZero = true) :
      FailsAfter before token .divisionByZero
  | negativeSqrt {only : Binary64} {rest : List Binary64} (htoken : token = "sqrt")
      (hstack : StackAfter before (only :: rest)) (hnegative : only.isBelowZero = true) :
      FailsAfter before token (.negativeSqrt only)

/-- The error with which the token at a place fails. -/
def FailsAt (tokens : List String) (i : Nat) (e : EvalError) : Prop :=
  ∃ token, tokens[i]? = some token ∧ FailsAfter (tokens.take i) token e

/-- No token before the place fails. -/
def IsFirst (tokens : List String) (i : Nat) : Prop :=
  ∀ j < i, ∀ e, ¬ FailsAt tokens j e

theorem FeedsAll.stackAfter (h : FeedsAll [] tokens stack steps) : StackAfter tokens stack :=
  h.feedAll_eq none

theorem FeedsAll.eq_of_stackAfter (h : FeedsAll [] tokens stack steps)
    (h' : StackAfter tokens stack') : stack = stack' := by
  have heq := h.stackAfter
  unfold StackAfter at heq h'
  rw [heq] at h'
  simpa using h'

/-- After tokens that are fed, a token fails where the machine fails on it. -/
theorem failsAfter_iff (hfeeds : FeedsAll [] before stack steps) :
    FailsAfter before token e ↔ ∃ left, Feeds token stack (.failed e left) := by
  -- The depth of the tokens before is the height of the stack that the machine looks at.
  have hlength : (stack.length : Int) = depth before := by
    simpa using hfeeds.length_eq
  constructor
  · intro h
    cases h with
    | unknownToken hnumber hop => exact ⟨_, .unknown (number?_of_not_isNumber hnumber) hop⟩
    | insufficientOperands hop hdepth => exact ⟨_, .short hop (by omega)⟩
    | divisionByZero htoken hstack hzero =>
        rw [hfeeds.eq_of_stackAfter hstack, htoken]
        have hop := Operator.ofSymbol?_symbol (.binary .div)
        exact ⟨_, .binaryFails hop (divide_of_isZero _ hzero)⟩
    | negativeSqrt htoken hstack hnegative =>
        rw [hfeeds.eq_of_stackAfter hstack, htoken]
        have hop := Operator.ofSymbol?_symbol (.unary .sqrt)
        exact ⟨_, .unaryFails hop (squareRoot_of_isBelowZero hnegative)⟩
  · rintro ⟨left, h⟩
    cases h with
    | unknown h hop => exact .unknownToken (not_isNumber_of_number? h) hop
    | short hop hlen => exact .insufficientOperands hop (by omega)
    | unaryFails hop h =>
        obtain ⟨rfl, hnegative, he⟩ := UnaryOperator.apply_eq_error_iff.1 h
        cases he
        exact .negativeSqrt (Operator.symbol_of_ofSymbol? hop).symm hfeeds.stackAfter hnegative
    | binaryFails hop h =>
        obtain ⟨rfl, hzero, he⟩ := BinaryOperator.apply_eq_error_iff.1 h
        cases he
        exact .divisionByZero (Operator.symbol_of_ofSymbol? hop).symm hfeeds.stackAfter hzero

/-! ## Places in a list of tokens -/

theorem FailsAt.lt_length (h : FailsAt tokens i e) : i < tokens.length := by
  obtain ⟨token, htoken, -⟩ := h
  exact (List.getElem?_eq_some_iff.1 htoken).1

/-- Whether a token fails does not depend on those after it. -/
theorem failsAt_append (hi : i < before.length) :
    FailsAt (before ++ after) i e ↔ FailsAt before i e := by
  unfold FailsAt
  rw [List.getElem?_append_left hi, List.take_append_of_le_length (Nat.le_of_lt hi)]

theorem failsAt_length :
    FailsAt (before ++ token :: after) before.length e ↔ FailsAfter before token e := by
  simp [FailsAt]

/-- None of the tokens fails that are all fed. -/
theorem not_failsAt_of_feedsAll (h : FeedsAll [] tokens stack steps) (i : Nat) (e : EvalError) :
    ¬ FailsAt tokens i e := by
  -- Cut the tokens at the place: what is fed there would have to fail as well.
  intro hfails
  have hi := hfails.lt_length
  rw [← List.take_append_drop i tokens, List.drop_eq_getElem_cons hi] at h
  obtain ⟨middle, _, _, hbefore, hrest, -⟩ := h.of_append
  obtain ⟨token, htoken, hafter⟩ := hfails
  obtain ⟨left, hleft⟩ := (failsAfter_iff hbefore).1 hafter
  cases hrest with
  | cons hfed _ =>
      rw [(List.getElem?_eq_some_iff.1 htoken).2] at hfed
      cases hfed.unique hleft

/-- Where feeding fails, there is a first token that fails, with the same error. -/
theorem exists_failsAt_of_failsIn (h : FailsIn [] tokens e left steps) :
    ∃ i, FailsAt tokens i e ∧ IsFirst tokens i := by
  obtain ⟨before, token, after, middle, rfl, hfeeds, hfails⟩ := h.exists_feeds
  refine ⟨before.length, failsAt_length.2 ((failsAfter_iff hfeeds).2 ⟨left, hfails⟩), ?_⟩
  intro j hj e' hearlier
  exact not_failsAt_of_feedsAll hfeeds j e' ((failsAt_append hj).1 hearlier)

/-- Tokens are fed up to the first one that fails, and that one fails. -/
theorem failsIn_of_first (h : FailsAt tokens i e) (hfirst : IsFirst tokens i) :
    ∃ left steps, FailsIn [] tokens e left steps := by
  have hi := h.lt_length
  have hsplit : tokens = tokens.take i ++ tokens[i] :: tokens.drop (i + 1) := by
    rw [← List.drop_eq_getElem_cons hi, List.take_append_drop]
  have hlen : (tokens.take i).length = i := by
    rw [List.length_take]
    omega
  rcases feedsAll_or_failsIn (tokens.take i) [] with
    ⟨middle, steps, hfeeds⟩ | ⟨e', left, steps, hearlier⟩
  · obtain ⟨token, htoken, hafter⟩ := h
    obtain ⟨left, hfails⟩ := (failsAfter_iff hfeeds).1 hafter
    rw [← (List.getElem?_eq_some_iff.1 htoken).2] at hfails
    rw [hsplit]
    exact ⟨left, _, hfeeds.append_failsIn (.head hfails)⟩
  · -- A failure before the place would be at an earlier place.
    obtain ⟨j, hj, -⟩ := exists_failsAt_of_failsIn hearlier
    have hji : j < (tokens.take i).length := hj.lt_length
    refine absurd ?_ (hfirst j (by omega) e')
    rw [hsplit]
    exact (failsAt_append hji).2 hj

/-! ## Expressions -/

/-- An expression fails because it has no tokens, because one of them fails, or because
more than one value is left. -/
theorem evaluate_error_cases {expression : Option String}
    (h : evaluate expression = .error (.expression e)) :
    Token.ofExpression expression = .error e ∨
      (∃ before token, FailsAfter before token e) ∨ ∃ count, e = .tooManyOperands count := by
  obtain ⟨answer, _, _, hruns⟩ := exists_runs expression []
  rw [evaluate_of_runs hruns] at h
  cases hruns with
  | blank hblank =>
      cases h
      exact .inl hblank
  | fails _ hfails =>
      cases h
      obtain ⟨_, ⟨_, _, hafter⟩, -⟩ := exists_failsAt_of_failsIn hfails
      exact .inr (.inl ⟨_, _, hafter⟩)
  | value _ _ => contradiction
  | tooMany _ _ =>
      cases h
      exact .inr (.inr ⟨_, rfl⟩)

theorem evaluate_ne_insufficientOperands_none (expression : Option String) :
    evaluate expression ≠ .error (.expression (.insufficientOperands none)) := by
  intro h
  rcases evaluate_error_cases h with hblank | ⟨_, _, hafter⟩ | ⟨_, hcount⟩
  · cases Token.eq_emptyExpression_of_ofExpression hblank
  · cases hafter
  · cases hcount

/-- Only an expression without tokens is empty. -/
theorem ofExpression_of_evaluate {expression : Option String}
    (h : evaluate expression = .error (.expression .emptyExpression)) :
    Token.ofExpression expression = .error .emptyExpression := by
  rcases evaluate_error_cases h with hblank | ⟨_, _, hafter⟩ | ⟨_, hcount⟩
  · exact hblank
  · cases hafter
  · cases hcount

/-- Where no token fails, the depth of the tokens decides. -/
theorem evaluate_of_feedsAll {expression : Option String}
    (h : Token.ofExpression expression = .ok tokens) (hfeeds : FeedsAll [] tokens stack steps) :
    1 ≤ depth tokens ∧ ((∃ x, evaluate expression = .ok x) ↔ depth tokens = 1) ∧
      ∀ count : Nat, evaluate expression = .error (.expression (.tooManyOperands count)) ↔
        1 < depth tokens ∧ (count : Int) = depth tokens := by
  have hlength : (stack.length : Int) = depth tokens := by
    simpa using hfeeds.length_eq
  have hne : stack ≠ [] := hfeeds.ne_nil (Token.ne_nil_of_ofExpression h)
  rcases stack with _ | ⟨x, _ | ⟨y, rest⟩⟩
  · exact absurd rfl hne
  · rw [evaluate_of_runs (.value h hfeeds), ← hlength]
    simp [Except.mapError]
  · rw [evaluate_of_runs (.tooMany h hfeeds), ← hlength]
    simp only [Except.mapError, List.length_cons]
    refine ⟨by omega, by simp; omega, ?_⟩
    intro count
    simp only [Except.error.injEq, Failure.expression.injEq, EvalError.tooManyOperands.injEq]
    omega

end Machine

open Machine Token

/-- The first token that fails decides with which error an expression ends,
whatever stands after it.  If no token fails, the depth of the tokens decides,
which is positive: there is a value if it is one, and there are so many operands
too many otherwise.  No expression ends for want of a final value. -/
theorem evaluate_classified :
    (∀ text : String, (∃ c ∈ text.toList, Text.isTrimmed c = false) →
      ∃ tokens, Token.ofExpression (some text) = .ok tokens ∧
        (∀ i e, FailsAt tokens i e → IsFirst tokens i →
          evaluate (some text) = .error (.expression e)) ∧
        ((∀ i e, ¬ FailsAt tokens i e) →
          1 ≤ depth tokens ∧ ((∃ x, evaluate (some text) = .ok x) ↔ depth tokens = 1) ∧
          ∀ count : Nat, evaluate (some text) = .error (.expression (.tooManyOperands count)) ↔
            1 < depth tokens ∧ (count : Int) = depth tokens)) ∧
    ∀ expression : Option String,
      evaluate expression ≠ .error (.expression (.insufficientOperands none)) ∧
      trace expression ≠ .error (.expression (.insufficientOperands none)) := by
  constructor
  · intro text hkept
    have htokens := Token.ofExpression_of_ne_nil (Text.trimChars_ne_nil hkept)
    refine ⟨_, htokens, ?_, ?_⟩
    · intro i e h hfirst
      obtain ⟨left, steps, hfails⟩ := failsIn_of_first h hfirst
      rw [evaluate_of_runs (.fails htokens hfails)]
      rfl
    · intro hnone
      rcases feedsAll_or_failsIn _ [] with ⟨stack, steps, hfeeds⟩ | ⟨e, left, steps, hfails⟩
      · exact evaluate_of_feedsAll htokens hfeeds
      · obtain ⟨i, h, -⟩ := exists_failsAt_of_failsIn hfails
        exact absurd h (hnone i e)
  · intro expression
    have hnever := evaluate_ne_insufficientOperands_none expression
    exact ⟨hnever, fun h => hnever (trace_eq_error_iff.1 h)⟩

/-- A quotient by zero comes before a token that nothing knows, and two numbers
are one too many. -/
theorem evaluate_classified_quotient :
    FailsAt ["1", "0", "/", "foo"] 2 .divisionByZero ∧ IsFirst ["1", "0", "/", "foo"] 2 ∧
      evaluate (some "1 0 / foo") = .error (.expression .divisionByZero) ∧
      (∀ i e, ¬ FailsAt ["1", "0"] i e) ∧
      evaluate (some "1 0") = .error (.expression (.tooManyOperands 2)) := by
  have hone : number? "1" = .ok (some .one) := by decide +kernel
  have hzero : number? "0" = .ok (some (.zero false)) := by decide +kernel
  have hfeeds : FeedsAll [] ["1", "0"] [.zero false, .one] _ :=
    .cons (.number hone) (.singleton (.number hzero))
  have hstack := hfeeds.stackAfter
  have hnone : ∀ i e, ¬ FailsAt ["1", "0"] i e := not_failsAt_of_feedsAll hfeeds
  have hfails : FailsAt ["1", "0", "/", "foo"] 2 .divisionByZero :=
    ⟨"/", rfl, .divisionByZero rfl hstack (by decide)⟩
  have hfirst : IsFirst ["1", "0", "/", "foo"] 2 := by
    intro j hj e h
    have hsplit : FailsAt (["1", "0"] ++ ["/", "foo"]) j e := h
    exact hnone j e ((failsAt_append hj).1 hsplit)
  obtain ⟨tokens, htokens, hquotient, -⟩ :=
    evaluate_classified.1 "1 0 / foo" ⟨'1', by decide, by decide⟩
  obtain ⟨tokens', htokens', -, hdepth⟩ := evaluate_classified.1 "1 0" ⟨'1', by decide, by decide⟩
  have hdivided : ofExpression (some "1 0 / foo") = .ok ["1", "0", "/", "foo"] := by
    decide +kernel
  have hdivided' : ofExpression (some "1 0") = .ok ["1", "0"] := by
    decide +kernel
  rw [hdivided, Except.ok.injEq] at htokens
  rw [hdivided', Except.ok.injEq] at htokens'
  subst htokens htokens'
  have hcount : depth ["1", "0"] = 2 := by decide +kernel
  exact ⟨hfails, hfirst, hquotient 2 _ hfails hfirst, hnone,
    ((hdepth hnone).2.2 2).2 ⟨by omega, by omega⟩⟩

end PostfixCalc
