import PostfixCalc.Binary64.Basic
import PostfixCalc.Fault
import PostfixCalc.Operator.Basic

/-!
# Errors of an expression

An expression fails in one of six ways.  A failure of the calculator is such an
error or a fault of a primitive; that faults never come from expressions is a
property of the calculator and not of these types.
-/

namespace PostfixCalc

/-- Why an expression has no value. -/
inductive EvalError where
  /-- There is no token in the expression. -/
  | emptyExpression
  /-- A token is neither a number nor an operator. -/
  | unknownToken (token : String)
  /-- An operator finds too few operands, or no value is left at the end. -/
  | insufficientOperands (operator : Option Operator)
  /-- More than one value is left at the end. -/
  | tooManyOperands (count : Nat)
  | divisionByZero
  | negativeSqrt (operand : Binary64)
  deriving DecidableEq

def EvalError.message : EvalError → String
  | .emptyExpression => "Expression cannot be empty"
  | .unknownToken token => s!"Unknown token: '{token}'"
  | .insufficientOperands none => "Invalid expression: insufficient operands"
  | .insufficientOperands (some op) => s!"Insufficient operands for operator '{op.symbol}'"
  | .tooManyOperands _ => "Invalid expression: too many operands"
  | .divisionByZero => "Division by zero"
  | .negativeSqrt _ => "Square root of negative number"

/-- How a calculation fails: by an error of its expression or by a fault. -/
inductive Failure where
  | expression (error : EvalError)
  | fault (fault : Fault)
  deriving DecidableEq

namespace Failure

/-- A computation that can only be faulty, among those that can fail. -/
def ofFaulty {α : Type} : Except Fault α → Except Failure α
  | .ok x => .ok x
  | .error f => .error (.fault f)

end Failure

end PostfixCalc
