/-!
# Faults

A fault is what a primitive answers when it is used outside its domain: an
arithmetic trap, text that spells no number, an empty stack.  Faults are not
among the errors of an expression, and the calculator is built so that its
callers never see one from an expression.
-/

namespace PostfixCalc

/-- How a primitive fails outside its domain. -/
inductive Fault where
  /-- A quotient by zero. -/
  | zeroDivisor
  /-- A result that no number is, such as the root of a negative number. -/
  | undefinedResult
  /-- An infinite result of finite arguments. -/
  | overflow
  /-- Text read as a number that spells none. -/
  | notANumber (text : String)
  /-- The whole part of a number that is infinite or not a number. -/
  | noWholePart
  /-- A look at the top of an empty stack. -/
  | emptyStack
  /-- A look at the last step of an empty trace. -/
  | emptyTrace
  /-- Text read as a whole number that spells none, shown quoted. -/
  | notAWholeNumber (quoted : String)
  /-- Text read as a whole number that has more digits than are accepted. -/
  | tooManyDigits (count : Nat)
  deriving DecidableEq, Repr

namespace Fault

/-- The most digits that are accepted in a whole number. -/
def maxDigits : Nat :=
  4300

def message : Fault → String
  | .zeroDivisor => "division by zero"
  | .undefinedResult => "undefined result"
  | .overflow => "result too large"
  | .notANumber text => s!"not a number: {text}"
  | .noWholePart => "no whole part"
  | .emptyStack => "the stack is empty"
  | .emptyTrace => "the trace is empty"
  | .notAWholeNumber quoted => s!"invalid literal for int() with base 10: {quoted}"
  | .tooManyDigits count =>
      s!"Exceeds the limit ({maxDigits} digits) for integer string conversion: " ++
        s!"value has {count} digits; use sys.set_int_max_str_digits() to increase the limit"

end Fault

end PostfixCalc
