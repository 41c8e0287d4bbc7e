import PostfixCalc.Binary64.Remainder
import PostfixCalc.Binary64.Trapping
import PostfixCalc.Error

/-!
# What operators do to their operands

Quotients by zero and square roots of negative numbers are errors of the
expression.  Everything else has a value: powers are those of IEEE 754, angles
are in degrees, and the functions of an infinite angle are not a number.
-/

namespace PostfixCalc

/-- The quotient, unless the divisor is a zero of either sign. -/
def divide (left right : Binary64) : Except Failure Binary64 :=
  if right.isZero then
    .error (.expression .divisionByZero)
  else
    Failure.ofFaulty (left.divTrapping right)

/-- The power by a primitive that may trap.  What it trapped on tells the value: an
overflow is negative for an odd power of a negative base, zero to a negative power is
infinite with the sign of the base for an odd power, and any other undefined power is not
a number. -/
def powerBy (trapping : Binary64 → Binary64 → Except Fault Binary64)
    (base exponent : Binary64) : Except Failure Binary64 :=
  match trapping base exponent with
  | .ok x => .ok x
  | .error .overflow => .ok (.infinity (base.isBelowZero && exponent.leavesOne))
  | .error .undefinedResult =>
      if base.isZero then .ok (.infinity (exponent.leavesOne && base.isSigned)) else .ok .nan
  | .error f => .error (.fault f)

/-- The power. -/
def power : Binary64 → Binary64 → Except Failure Binary64 :=
  powerBy Binary64.powTrapping

/-- The square root, unless the operand is below zero. -/
def squareRoot (only : Binary64) : Except Failure Binary64 :=
  if only.isBelowZero then
    .error (.expression (.negativeSqrt only))
  else
    Failure.ofFaulty only.sqrtTrapping

/-- A function of an angle, applied to an angle in degrees. -/
def ofDegrees (f : Binary64 → Binary64) (degrees : Binary64) : Except Failure Binary64 :=
  if degrees.isFinite then
    Failure.ofFaulty (degrees.radians.angleTrapping f)
  else
    .ok .nan

/-- Apply an operator of one operand. -/
def UnaryOperator.apply : UnaryOperator → Binary64 → Except Failure Binary64
  | .sqrt => squareRoot
  | .sin => ofDegrees .sin
  | .cos => ofDegrees .cos
  | .tan => ofDegrees .tan

/-- Apply an operator of two operands, the left one first. -/
def BinaryOperator.apply : BinaryOperator → Binary64 → Binary64 → Except Failure Binary64
  | .add, left, right => .ok (left.add right)
  | .sub, left, right => .ok (left.sub right)
  | .mul, left, right => .ok (left.mul right)
  | .div, left, right => divide left right
  | .pow, left, right => power left right

end PostfixCalc
