import PostfixCalc.Binary64.Rounding

/-!
# Sums, products, quotients and square roots

Each operation computes its exact result as a quotient of whole numbers of
units and rounds once.  Infinite operands, zeros and undefined results follow
IEEE 754 with its default answers.
-/

namespace PostfixCalc

-- Powers of whole numbers are those of the core library.
attribute [local instance (high)] instPowNat

/-- The whole part of the square root of a number below `4 ^ digits`, one
binary digit of the root at a time. -/
def floorSqrtAux : Nat → Nat → Nat
  | 0, _ => 0
  | digits + 1, n =>
      let r := 2 * floorSqrtAux digits (n / 4)
      if (r + 1) * (r + 1) ≤ n then r + 1 else r

/-- The whole part of the square root. -/
def floorSqrt (n : Nat) : Nat :=
  floorSqrtAux (n.log2 / 2 + 1) n

namespace Binary64

/-- The sum of two finite numbers.  A sum of zero is negative only if both
terms are signed. -/
def addFinite (s : Bool) (m : Magnitude) (t : Bool) (n : Magnitude) : Binary64 :=
  let a : Int := if s then -(m.units : Int) else m.units
  let b : Int := if t then -(n.units : Int) else n.units
  if a + b = 0 then zero (s && t) else ofUnits (a + b)

def add : Binary64 → Binary64 → Binary64
  | .nan, _ => .nan
  | _, .nan => .nan
  | .infinity s, .infinity t => if s = t then .infinity s else .nan
  | .infinity s, .finite _ _ => .infinity s
  | .finite _ _, .infinity t => .infinity t
  | .finite s m, .finite t n => addFinite s m t n

def sub (x y : Binary64) : Binary64 :=
  add x (neg y)

def mul : Binary64 → Binary64 → Binary64
  | .nan, _ => .nan
  | _, .nan => .nan
  | .infinity s, .infinity t => .infinity (s != t)
  | .infinity s, .finite t n => if n.units = 0 then .nan else .infinity (s != t)
  | .finite s m, .infinity t => if m.units = 0 then .nan else .infinity (s != t)
  | .finite s m, .finite t n =>
      ofQuotient (s != t) (m.units * n.units) Magnitude.one

def div : Binary64 → Binary64 → Binary64
  | .nan, _ => .nan
  | _, .nan => .nan
  | .infinity _, .infinity _ => .nan
  | .infinity s, .finite t _ => .infinity (s != t)
  | .finite s _, .infinity t => zero (s != t)
  | .finite s m, .finite t n =>
      if n.units = 0 then
        if m.units = 0 then .nan else .infinity (s != t)
      else
        ofQuotient (s != t) (m.units * Magnitude.one) n.units

/-- The square root of a magnitude.  A root that is no whole number of units
is rounded as a half above its whole part: the root has more than 500 bits, so
no rounding boundary lies inside that unit. -/
def sqrtMagnitude (m : Magnitude) : Binary64 :=
  let radicand := m.units * Magnitude.one
  let root := floorSqrt radicand
  ofQuotient false (2 * root + if root * root = radicand then 0 else 1) 2

def sqrt : Binary64 → Binary64
  | .nan => .nan
  | .infinity negative => if negative then .nan else .infinity false
  | .finite negative m =>
      if m.units = 0 then
        zero negative
      else
        if negative then .nan else sqrtMagnitude m

end Binary64

end PostfixCalc
