import PostfixCalc.Proofs.Decimal.Grammar
import PostfixCalc.Proofs.Machine.FirstFailure
import PostfixCalc.Proofs.Session.Dump

/-!
# The kind of a token is what it does

A machine that is fed a number pushes its value, one that is fed an operator applies it or
fails for want of operands or on those that it finds, and any other token is unknown to it.
Whatever it holds, no two of these answers are alike (`Pushed.not_operated`), so that the answer
of any machine tells the kind of the token (`kind_of_pushed`, `kind_of_operated`,
`kind_of_unknownToken`).  Hence an expression fails on an unknown token only if a dump shows
that token as invalid.
-/

namespace PostfixCalc

namespace Machine

/-- An operator takes its operands off the top of a stack, the right one above the left one, and
puts its value in their place. -/
inductive Applies : Operator → List Binary64 → List Binary64 → Prop
  | unary {op : UnaryOperator} {only value : Binary64} {rest : List Binary64}
      (h : op.apply only = .ok value) : Applies (.unary op) (only :: rest) (value :: rest)
  | binary {op : BinaryOperator} {left right value : Binary64} {rest : List Binary64}
      (h : op.apply left right = .ok value) :
      Applies (.binary op) (right :: left :: rest) (value :: rest)

/-- What a machine answers that is fed an operator. -/
inductive Operated (op : Operator) (m : Machine) : EStateM.Result Failure Machine Unit → Prop
  | applied {m' : Machine} (h : Applies op m.stack m'.stack) : Operated op m (.ok () m')
  | short (h : m.stack.length < op.arity) :
      Operated op m (.error (.expression (.insufficientOperands (some op))) m)
  | divisionByZero {m' : Machine} (h : op.arity ≤ m.stack.length) :
      Operated op m (.error (.expression .divisionByZero) m')
  | negativeSqrt {x : Binary64} {m' : Machine} (h : op.arity ≤ m.stack.length) :
      Operated op m (.error (.expression (.negativeSqrt x)) m')

/-- The machine has answered with one more value on its stack. -/
def Pushed (x : Binary64) (m : Machine) (answer : EStateM.Result Failure Machine Unit) : Prop :=
  ∃ m', answer = .ok () m' ∧ m'.stack = x :: m.stack

variable {token unknown : String} {op : Operator} {x : Binary64} {m m' : Machine}
  {answer : EStateM.Result Failure Machine Unit}

theorem Applies.arity_le {stack stack' : List Binary64} (h : Applies op stack stack') :
    op.arity ≤ stack.length := by
  cases h <;> simp [Operator.arity]

theorem Applies.length_le {stack stack' : List Binary64} (h : Applies op stack stack') :
    stack'.length ≤ stack.length := by
  cases h <;> simp

/-! ## What a token of each kind does -/

theorem pushed_of_number? (h : Token.number? token = .ok (some x)) (m : Machine) :
    Pushed x m (feed token m) := by
  rw [feed_of_number m h, record_eq]
  exact ⟨_, rfl, rfl⟩

theorem operated_of_ofSymbol? (hop : Operator.ofSymbol? token = some op) (m : Machine) :
    Operated op m (feed token m) := by
  obtain ⟨r, hr⟩ := exists_feeds token m.stack
  obtain ⟨stack, steps⟩ := m
  rw [hr.feed_eq steps]
  cases hr with
  | number h =>
      rw [Token.number?_of_ofSymbol? hop] at h
      simp at h
  | unknown h hnone =>
      rw [hop] at hnone
      contradiction
  | short hop' hlen =>
      obtain rfl := Option.some.inj (hop.symm.trans hop')
      exact .short hlen
  | unary hop' h =>
      obtain rfl := Option.some.inj (hop.symm.trans hop')
      exact .applied (.unary h)
  | binary hop' h =>
      obtain rfl := Option.some.inj (hop.symm.trans hop')
      exact .applied (.binary h)
  | unaryFails hop' h =>
      obtain rfl := Option.some.inj (hop.symm.trans hop')
      obtain ⟨-, -, he⟩ := UnaryOperator.apply_eq_error_iff.1 h
      cases he
      exact .negativeSqrt (by simp [Operator.arity])
  | binaryFails hop' h =>
      obtain rfl := Option.some.inj (hop.symm.trans hop')
      obtain ⟨-, -, he⟩ := BinaryOperator.apply_eq_error_iff.1 h
      cases he
      exact .divisionByZero (by simp [Operator.arity])

/-! ## What the answer tells -/

/-- No operator leaves all of the stack and one value more. -/
theorem Pushed.not_operated (h : Pushed x m answer) : ¬ Operated op m answer := by
  obtain ⟨m', rfl, hstack⟩ := h
  intro hop
  cases hop with
  | applied happlies =>
      have hle := happlies.length_le
      rw [hstack, List.length_cons] at hle
      omega

theorem kind_of_pushed (h : Pushed x m (feed token m)) : Token.kind token = .ok .number := by
  rcases Token.cases_of_token token with ⟨y, hy⟩ | ⟨op, hop⟩ | ⟨hnumber, hop⟩
  · exact Token.kind_of_number? hy
  · exact absurd (operated_of_ofSymbol? hop m) h.not_operated
  · obtain ⟨m', hfeed, -⟩ := h
    rw [feed_of_unknown m hnumber hop] at hfeed
    contradiction

theorem kind_of_operated (h : Operated op m (feed token m)) :
    Token.kind token = .ok .operator := by
  rcases Token.cases_of_token token with ⟨y, hy⟩ | ⟨op', hop⟩ | ⟨hnumber, hop⟩
  · exact absurd h (pushed_of_number? hy m).not_operated
  · exact Token.kind_of_ofSymbol? hop
  · rw [feed_of_unknown m hnumber hop] at h
    cases h

theorem kind_of_unknownToken
    (h : feed token m = .error (.expression (.unknownToken unknown)) m') :
    Token.kind token = .ok .invalid := by
  rcases Token.cases_of_token token with ⟨y, hy⟩ | ⟨op, hop⟩ | ⟨hnumber, hop⟩
  · obtain ⟨_, hfeed, -⟩ := pushed_of_number? hy m
    rw [h] at hfeed
    contradiction
  · have hoperated := operated_of_ofSymbol? hop m
    rw [h] at hoperated
    cases hoperated
  · exact Token.kind_of_unknown hnumber hop

theorem kind_eq_number_iff_pushed :
    Token.kind token = .ok .number ↔
      ∃ x, Token.number? token = .ok (some x) ∧ ∀ m, Pushed x m (feed token m) := by
  constructor
  · intro h
    obtain ⟨x, hx⟩ := Token.kind_eq_number_iff.1 h
    exact ⟨x, hx, pushed_of_number? hx⟩
  · rintro ⟨x, -, h⟩
    exact kind_of_pushed (h (.new false))

theorem kind_eq_operator_iff_operated :
    Token.kind token = .ok .operator ↔
      ∃ op : Operator, op.symbol = token ∧ ∀ m, Operated op m (feed token m) := by
  constructor
  · intro h
    obtain ⟨op, hop⟩ := Token.kind_eq_operator_iff.1 h
    exact ⟨op, Operator.symbol_of_ofSymbol? hop, operated_of_ofSymbol? hop⟩
  · rintro ⟨op, -, h⟩
    exact kind_of_operated (h (.new false))

theorem kind_eq_invalid_iff_unknownToken :
    Token.kind token = .ok .invalid ↔
      ∀ m, feed token m = .error (.expression (.unknownToken token)) m := by
  constructor
  · intro h m
    obtain ⟨hnumber, hop⟩ := Token.kind_eq_invalid_iff.1 h
    exact feed_of_unknown m hnumber hop
  · intro h
    exact kind_of_unknownToken (h (.new false))

/-- An operator is short of operands exactly where the stack is shorter than their number. -/
theorem feed_symbol_eq_short_iff (op : Operator) (m : Machine) :
    feed op.symbol m = .error (.expression (.insufficientOperands (some op))) m ↔
      m.stack.length < op.arity := by
  have hoperated := operated_of_ofSymbol? (Operator.ofSymbol?_symbol op) m
  constructor
  · intro h
    rw [h] at hoperated
    cases hoperated with
    | short hlen => exact hlen
  · intro hlen
    generalize feed op.symbol m = answer at hoperated
    cases hoperated with
    | short _ => rfl
    | divisionByZero h => omega
    | negativeSqrt h => omega
    | applied happlies =>
        have hle := happlies.arity_le
        omega

end Machine

/-! ## What a dump tells -/

open Machine Session Text

/-- The unknown token on which an expression fails is one of its tokens. -/
theorem mem_tokensOf_of_evaluate {text token : String}
    (h : evaluate (some text) = .error (.expression (.unknownToken token))) :
    token ∈ tokensOf text ∧ Token.kind token = .ok .invalid := by
  obtain ⟨answer, _, _, hruns⟩ := exists_runs (some text) []
  rw [evaluate_of_runs hruns] at h
  cases hruns with
  | blank hblank =>
      cases h
      cases Token.eq_emptyExpression_of_ofExpression hblank
  | value _ _ => contradiction
  | tooMany _ _ => cases h
  | fails htokens hfails =>
      cases h
      obtain ⟨before, failing, after, middle, rfl, -, hfeeds⟩ := hfails.exists_feeds
      have hkind := kind_of_unknownToken (hfeeds.feed_eq none)
      rcases hfeeds.failed_cases with ⟨htoken, -⟩ | ⟨_, he, -⟩ | ⟨he, -⟩ | ⟨_, he, -⟩
      · cases htoken
        exact ⟨by simp [tokensOf, htokens], hkind⟩
      · contradiction
      · contradiction
      · contradiction

/-- A dump shows that token as invalid. -/
theorem exists_row_of_evaluate (s : Session) {text token : String}
    (h : evaluate (some text) = .error (.expression (.unknownToken token))) :
    ∃ row ∈ (dumpLine s text).out, fields row = ["invalid", quote token, "None"] := by
  obtain ⟨hmem, hkind⟩ := mem_tokensOf_of_evaluate h
  have hop := (Token.kind_eq_invalid_iff.1 hkind).2
  refine ⟨dumpText token, ?_, ?_⟩
  · rw [dumpLine_eq, dumpRows_eq]
    exact List.mem_map_of_mem hmem
  · rw [fields_dumpText hkind, arityText, hop]
    rfl

/-- No literal is the symbol of an operator.  A token is a number if every machine pushes the
value of the literal when it is fed the token, an operator if every machine applies it or fails
for want of operands or on those that it finds, and invalid if every machine fails on it as
unknown; and what a single machine answers, whatever it holds, is enough to tell.  Operands are
wanting exactly where the stack is shorter than their number.  So an expression fails on an
unknown token only if a dump of it shows this token as invalid, and not at all if no row of the
dump is so. -/
theorem kind_agrees_with_feeding :
    (∀ (token : String) (q : ℚ), Decimal.Denotes token.toList q →
      Operator.ofSymbol? token = none) ∧
    (∀ token : String,
      (Token.kind token = .ok .number ↔
        ∃ x, Token.number? token = .ok (some x) ∧ ∀ m, Pushed x m (feed token m)) ∧
      (Token.kind token = .ok .operator ↔
        ∃ op : Operator, op.symbol = token ∧ ∀ m, Operated op m (feed token m)) ∧
      (Token.kind token = .ok .invalid ↔
        ∀ m, feed token m = .error (.expression (.unknownToken token)) m)) ∧
    (∀ (token : String) (m : Machine),
      (∀ x, Pushed x m (feed token m) → Token.kind token = .ok .number) ∧
      (∀ op, Operated op m (feed token m) → Token.kind token = .ok .operator) ∧
      (∀ unknown m', feed token m = .error (.expression (.unknownToken unknown)) m' →
        Token.kind token = .ok .invalid)) ∧
    (∀ (op : Operator) (m : Machine),
      feed op.symbol m = .error (.expression (.insufficientOperands (some op))) m ↔
        m.stack.length < op.arity) ∧
    (∀ (s : Session) (text token : String),
      evaluate (some text) = .error (.expression (.unknownToken token)) →
      ∃ row ∈ (dumpLine s text).out, fields row = ["invalid", quote token, "None"]) ∧
    ∀ (s : Session) (text : String),
      (∀ row ∈ (dumpLine s text).out, (fields row).head? ≠ some "invalid") →
      ∀ token, evaluate (some text) ≠ .error (.expression (.unknownToken token)) := by
  refine ⟨?_, ?_, ?_, feed_symbol_eq_short_iff, ?_, ?_⟩
  · intro token q hq
    obtain ⟨d, hd, -⟩ := hq.exists_parse?
    exact Token.ofSymbol?_of_parse? hd
  · intro token
    exact ⟨kind_eq_number_iff_pushed, kind_eq_operator_iff_operated,
      kind_eq_invalid_iff_unknownToken⟩
  · intro token m
    exact ⟨fun x => kind_of_pushed, fun op => kind_of_operated,
      fun unknown m' => kind_of_unknownToken⟩
  · exact fun s text token h => exists_row_of_evaluate s h
  · intro s text hrows token h
    obtain ⟨row, hrow, hfields⟩ := exists_row_of_evaluate s h
    exact hrows row hrow (by rw [hfields]; rfl)

/-- `-1` is a number though `-` is an operator, and `Sqrt` is unknown though `sqrt` is one: a
machine that holds one number tells all of them apart, and so does the dump of a line. -/
theorem kind_agrees_with_feeding_sign :
    let m : Machine := { stack := [.zero false], steps := none }
    Operator.ofSymbol? "-1" = none ∧ Token.kind "-1" = .ok .number ∧
    Token.kind "-" = .ok .operator ∧ Token.kind "Sqrt" = .ok .invalid ∧
    feed "-" m = .error (.expression (.insufficientOperands (some (.binary .sub)))) m ∧
    (∃ row ∈ (dumpLine .new "-1 Sqrt").out, fields row = ["invalid", quote "Sqrt", "None"]) ∧
    ∀ token, evaluate (some "-1 -") ≠ .error (.expression (.unknownToken token)) := by
  intro m
  have hdenotes : Decimal.Denotes "-1".toList (Decimal.toRat ⟨true, 1, 0⟩) :=
    Decimal.denotes_of_parse? (by decide)
  have hone : Token.number? "-1" =
      .ok (some (.finite true ⟨4503599627370496, 1022, by decide, by decide, by decide⟩)) := by
    decide +kernel
  have hunknown : feed "Sqrt" m = .error (.expression (.unknownToken "Sqrt")) m :=
    feed_of_unknown m (by decide +kernel) (by decide)
  have hshort := (kind_agrees_with_feeding.2.2.2.1 (.binary .sub) m).2 (by decide)
  have hfails : evaluate (some "-1 Sqrt") = .error (.expression (.unknownToken "Sqrt")) := by
    decide +kernel
  have hrows : ∀ row ∈ (dumpLine .new "-1 -").out, (fields row).head? ≠ some "invalid" := by
    decide +kernel
  exact ⟨kind_agrees_with_feeding.1 "-1" _ hdenotes,
    (kind_agrees_with_feeding.2.2.1 "-1" m).1 _ (pushed_of_number? hone m),
    (kind_agrees_with_feeding.2.2.1 "-" m).2.1 (.binary .sub) (hshort ▸ .short (by decide)),
    (kind_agrees_with_feeding.2.2.1 "Sqrt" m).2.2 "Sqrt" m hunknown, hshort,
    kind_agrees_with_feeding.2.2.2.2.1 .new "-1 Sqrt" "Sqrt" hfails,
    kind_agrees_with_feeding.2.2.2.2.2 .new "-1 -" hrows⟩

end PostfixCalc
