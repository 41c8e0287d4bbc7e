import PostfixCalc.Binary64.Arithmetic

/-!
# Remainders

A quotient rounded toward zero leaves a remainder with the sign of the dividend.  A quotient
rounded down leaves one that is not below zero, where the divisor is above it.  So a whole
number is odd if rounding down leaves one by two, below zero as above it.
-/

namespace PostfixCalc

-- Powers of whole numbers are those of the core library.
attribute [local instance (high)] instPowNat

namespace Magnitude

/-- The magnitude of two. -/
def two : Magnitude where
  significand := unity.significand
  scale := 1023
  significand_lt := unity.significand_lt
  scale_le := by decide
  scale_eq_or_le := .inr (Nat.le_refl _)

theorem units_two : two.units = 2 * one := by
  have hscale : two.scale = unity.scale + 1 := rfl
  have hsig : two.significand = unity.significand := rfl
  rw [← units_unity]
  unfold units
  rw [hscale, hsig, Nat.pow_succ, Nat.mul_comm _ 2, Nat.mul_left_comm]

end Magnitude

namespace Binary64

/-- What a quotient by a divisor above zero leaves if it is rounded toward zero. -/
def truncRemainder (x : Binary64) (divisor : Magnitude) : Binary64 :=
  match x with
  | .finite negative m => ofQuotient negative (m.units % divisor.units) 1
  | _ => .nan

/-- What a quotient by a divisor above zero leaves if it is rounded down: a remainder below
zero is moved up by the divisor. -/
def floorRemainder (x : Binary64) (divisor : Magnitude) : Binary64 :=
  let rest := x.truncRemainder divisor
  if rest.isZero then
    zero false
  else
    if rest.isBelowZero then rest.add (.finite false divisor) else rest

/-- Is this a whole number that leaves one by two? -/
def leavesOne (x : Binary64) : Bool :=
  x.isWhole && (x.floorRemainder .two).numEq one

end Binary64

end PostfixCalc
