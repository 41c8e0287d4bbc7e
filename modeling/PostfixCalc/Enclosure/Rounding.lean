import PostfixCalc.Binary64.Rounding
import PostfixCalc.Enclosure.Basic

/-!
# Rounding what an enclosure encloses

When both ends of an enclosure round to the same number, so does everything
between them.  Otherwise the precision was too low, and the enclosure is
computed again at twice the precision.
-/

namespace PostfixCalc

-- Powers of whole numbers are those of the core library.
attribute [local instance (high)] instPowNat

/-- A rounded number, and whether the precision was high enough to decide it. -/
structure Rounded where
  value : Binary64
  decided : Bool
  deriving DecidableEq

namespace Rounded

/-- A number that needs no higher precision. -/
def sure (x : Binary64) : Rounded where
  value := x
  decided := true

/-- A number that stands in until the precision is higher. -/
def unsure (x : Binary64) : Rounded where
  value := x
  decided := false

/-- The first decided number among attempts of growing precision, or the last
one after a number of rounds. -/
def first (attempt : Nat → Rounded) : Nat → Nat → Binary64
  | 0, p => (attempt p).value
  | rounds + 1, p =>
      let r := attempt p
      if r.decided then r.value else first attempt rounds (2 * p)

end Rounded

namespace Enclosure

variable {p : Nat}

/-- The number nearest to `bound / 2 ^ p * 2 ^ power`. -/
def roundEnd (p : Nat) (power : Int) (bound : Int) : Binary64 :=
  let shift : Int := power + Magnitude.places
  .ofQuotient (bound < 0) (bound.natAbs * 2 ^ shift.toNat) (2 ^ (p + (-shift).toNat))

/-- The number that the enclosed one, times `2 ^ power`, rounds to. -/
def round (x : Enclosure p) (power : Int) : Rounded :=
  let below := roundEnd p power x.lo
  { value := below
    decided := below = roundEnd p power x.hi }

end Enclosure

end PostfixCalc
