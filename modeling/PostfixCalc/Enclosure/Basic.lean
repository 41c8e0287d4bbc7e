/-!
# Enclosures of real numbers

An enclosure of precision `p` is a pair of whole numbers: the real number that
it encloses lies between `lo / 2 ^ p` and `hi / 2 ^ p`.  Every operation rounds
its lower end down and its upper end up, so that it encloses the result
whatever the precision; a higher precision only makes the enclosure narrower.
-/

namespace PostfixCalc

-- Powers of whole numbers are those of the core library.
attribute [local instance (high)] instPowNat

/-- Bounds of a real number in steps of `2 ^ -p`. -/
structure Enclosure (p : Nat) where
  lo : Int
  hi : Int
  deriving DecidableEq, Repr

namespace Enclosure

variable {p : Nat}

/-- The quotient of a whole number by a positive one, rounded up. -/
def ceilDiv (n : Int) (d : Nat) : Int :=
  -(-n / (d : Int))

/-- Encloses the quotient `n / d`, for a positive `d`. -/
def ofRatio (p : Nat) (n : Int) (d : Nat) : Enclosure p where
  lo := n * 2 ^ p / (d : Int)
  hi := ceilDiv (n * 2 ^ p) d

/-- Encloses one, exactly. -/
def one (p : Nat) : Enclosure p where
  lo := 2 ^ p
  hi := 2 ^ p

/-- Encloses zero, exactly. -/
def zero (p : Nat) : Enclosure p where
  lo := 0
  hi := 0

def add (x y : Enclosure p) : Enclosure p where
  lo := x.lo + y.lo
  hi := x.hi + y.hi

def neg (x : Enclosure p) : Enclosure p where
  lo := -x.hi
  hi := -x.lo

def sub (x y : Enclosure p) : Enclosure p :=
  x.add y.neg

/-- The hull of the four products of the ends. -/
def mul (x y : Enclosure p) : Enclosure p :=
  let a := x.lo * y.lo
  let b := x.lo * y.hi
  let c := x.hi * y.lo
  let d := x.hi * y.hi
  { lo := min (min a b) (min c d) / 2 ^ p
    hi := ceilDiv (max (max a b) (max c d)) (2 ^ p) }

/-- Multiply by the quotient `n / d` of a whole number by a positive one. -/
def scale (x : Enclosure p) (n : Int) (d : Nat) : Enclosure p :=
  let a := x.lo * n
  let b := x.hi * n
  { lo := min a b / (d : Int)
    hi := ceilDiv (max a b) d }

/-- The reciprocal, if the enclosure keeps away from zero. -/
def inv? (x : Enclosure p) : Option (Enclosure p) :=
  if 0 < x.lo then
    some
      { lo := 2 ^ (2 * p) / x.hi
        hi := ceilDiv (2 ^ (2 * p)) x.lo.toNat }
  else
    if x.hi < 0 then
      some
        { lo := -ceilDiv (2 ^ (2 * p)) x.hi.natAbs
          hi := -(2 ^ (2 * p) / -x.lo) }
    else
      none

/-- Move both ends out by twice the greatest magnitude of `error`. -/
def widen (x error : Enclosure p) : Enclosure p :=
  let slack : Int := 2 * max error.lo.natAbs error.hi.natAbs
  { lo := x.lo - slack
    hi := x.hi + slack }

/-- The greatest magnitude, rounded down to whole multiples of one. -/
def wholeMagnitude (x : Enclosure p) : Nat :=
  max x.lo.natAbs x.hi.natAbs / 2 ^ p

end Enclosure

end PostfixCalc
