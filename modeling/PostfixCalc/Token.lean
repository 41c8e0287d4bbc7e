import PostfixCalc.Decimal.Literal
import PostfixCalc.Error
import PostfixCalc.Text.Blank

/-!
# Tokens

An expression is divided into tokens at its white space, whatever the tokens
are.  A token is a number when it is a decimal literal of a finite number, an
operator when it is the symbol of one, and invalid otherwise.
-/

namespace PostfixCalc

namespace Token

/-- The tokens of an expression, in order.  An expression that is missing or
blank has none, which is an error. -/
def ofExpression (expression : Option String) : Except EvalError (List String) :=
  match expression with
  | none => .error .emptyExpression
  | some text =>
      let trimmed := Text.trimChars text.toList
      if trimmed.isEmpty then
        .error .emptyExpression
      else
        .ok ((Text.words trimmed).map String.ofList)

/-- The value of a token that is a number.  A literal too large for a finite
number is none. -/
def number? (token : String) : Except Fault (Option Binary64) :=
  if (Decimal.parse? token.toList).isSome then do
    let x ← Binary64.read token
    return if x.isFinite then some x else none
  else
    return none

theorem number?_of_literal {token : String} {d : Decimal}
    (h : Decimal.parse? token.toList = some d) :
    number? token = .ok (if d.toBinary64.isFinite then some d.toBinary64 else none) := by
  simp [number?, Binary64.read, h, bind, Except.bind, pure, Except.pure]

theorem number?_of_not_literal {token : String} (h : Decimal.parse? token.toList = none) :
    number? token = .ok none := by
  simp [number?, h, pure, Except.pure]

/-- Telling numbers from other tokens never fails: only literals are read. -/
theorem exists_number? (token : String) : ∃ value, number? token = .ok value := by
  cases h : Decimal.parse? token.toList with
  | none => exact ⟨_, number?_of_not_literal h⟩
  | some d => exact ⟨_, number?_of_literal h⟩

/-- The kinds of tokens. -/
inductive Kind where
  | number
  | operator
  | invalid
  deriving DecidableEq, Repr

def Kind.text : Kind → String
  | .number => "number"
  | .operator => "operator"
  | .invalid => "invalid"

/-- The kind of a token. -/
def kind (token : String) : Except Fault Kind := do
  if (← number? token).isSome then
    return .number
  else
    return if (Operator.ofSymbol? token).isSome then .operator else .invalid

end Token

end PostfixCalc
