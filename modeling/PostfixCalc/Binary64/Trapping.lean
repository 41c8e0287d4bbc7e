import PostfixCalc.Binary64.Angle
import PostfixCalc.Binary64.Power
import PostfixCalc.Fault

/-!
# Trapping arithmetic

The primitives that the calculator computes with stop at exceptional operands
instead of answering with an infinity or no number.  Each one says in its first
lines where it traps; elsewhere it is the operation of IEEE 754.
-/

namespace PostfixCalc

namespace Binary64

/-- The quotient; any quotient by zero traps. -/
def divTrapping (x y : Binary64) : Except Fault Binary64 :=
  if y.isZero then .error .zeroDivisor else .ok (x.div y)

/-- The square root; that of a number below zero traps. -/
def sqrtTrapping (x : Binary64) : Except Fault Binary64 :=
  if x.isBelowZero then .error .undefinedResult else .ok x.sqrt

/-- A function of an angle, which traps at the infinite angles. -/
def angleTrapping (f : Binary64 → Binary64) (x : Binary64) : Except Fault Binary64 :=
  match x with
  | .infinity _ => .error .undefinedResult
  | _ => .ok (f x)

/-- The power.  For finite arguments it traps at zero to a negative power and
at a negative number to a power that is not whole, which are undefined, and at
any other infinite power, which is an overflow. -/
def powTrapping (x y : Binary64) : Except Fault Binary64 :=
  let power := x.pow y
  if x.isFinite && y.isFinite then
    if (x.isZero && y.isBelowZero) || (x.isBelowZero && !y.isWhole) then
      .error .undefinedResult
    else
      match power with
      | .infinity _ => .error .overflow
      | _ => .ok power
  else
    .ok power

end Binary64

end PostfixCalc
