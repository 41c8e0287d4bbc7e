import PostfixCalc.Decimal.Literal
import PostfixCalc.Binary64.Arithmetic
import PostfixCalc.Enclosure.Rounding
import PostfixCalc.Enclosure.Series

/-!
# Angles

Sine, cosine and tangent of an angle in radians, correctly rounded, and the
conversion from degrees.  The angle is reduced by the nearest multiple of a
right angle with as many bits of π as its size demands.
-/

namespace PostfixCalc

-- Powers of whole numbers are those of the core library.
attribute [local instance (high)] instPowNat

namespace Binary64

/-- The number nearest to π. -/
def halfTurn : Binary64 :=
  ofUnits (884279719003555 * 2 ^ (1026 : Nat))

/-- Radians of an angle in degrees: one product with the rounded size of a
degree. -/
def radians (x : Binary64) : Binary64 :=
  mul x (div halfTurn (ofUnits (180 * Magnitude.one)))

/-- The bits that reducing an angle needs beyond those of the result: as many
as its whole part has, or as there are zeros after its point. -/
def angleBits (m : Magnitude) : Nat :=
  (m.units.log2 - Magnitude.places) + (Magnitude.places - m.units.log2)

/-- The whole number of right angles nearest to an angle, and an enclosure of
what remains. -/
def reduceAngle (p : Nat) (m : Magnitude) : Nat × Enclosure p :=
  let pi := Enclosure.pi p
  let turns := roundQuotient (2 * m.units * 2 ^ p) (pi.lo.toNat * Magnitude.one)
  (turns, (Enclosure.ofRatio p m.units Magnitude.one).sub (pi.scale turns 2))

/-- An enclosure of the sine of a reduced angle moved by right angles. -/
def sinTurned {p : Nat} (turns : Nat) (rest : Enclosure p) : Enclosure p :=
  match turns % 4 with
  | 0 => rest.sin
  | 1 => rest.cos
  | 2 => rest.sin.neg
  | _ => rest.cos.neg

/-- The sine of an angle other than zero at working precision `p`. -/
def sinAt (m : Magnitude) (p : Nat) : Rounded :=
  let (turns, rest) := reduceAngle (p + angleBits m) m
  (sinTurned turns rest).round 0

/-- The cosine, which is the sine one right angle on. -/
def cosAt (m : Magnitude) (p : Nat) : Rounded :=
  let (turns, rest) := reduceAngle (p + angleBits m) m
  (sinTurned (turns + 1) rest).round 0

/-- The tangent, unless the precision does not tell the cosine from zero. -/
def tanAt (m : Magnitude) (p : Nat) : Rounded :=
  let (turns, rest) := reduceAngle (p + angleBits m) m
  match (sinTurned (turns + 1) rest).inv? with
  | some secant => ((sinTurned turns rest).mul secant).round 0
  | none => .unsure .nan

/-- The number of times that the precision of an angle function is doubled. -/
def angleRounds : Nat :=
  5

/-- The precision that an angle function starts with. -/
def anglePrecision : Nat :=
  128

/-- The number with the other sign if the argument has a sign. -/
def oddly (negative : Bool) (x : Binary64) : Binary64 :=
  if negative then x.neg else x

/-- The sine; an infinite angle has none. -/
def sin : Binary64 → Binary64
  | .finite negative m =>
      if m.units = 0 then
        .finite negative m
      else
        oddly negative (Rounded.first (sinAt m) angleRounds anglePrecision)
  | _ => .nan

/-- The cosine; an infinite angle has none. -/
def cos : Binary64 → Binary64
  | .finite _ m =>
      if m.units = 0 then
        one
      else
        Rounded.first (cosAt m) angleRounds anglePrecision
  | _ => .nan

/-- The tangent; an infinite angle has none. -/
def tan : Binary64 → Binary64
  | .finite negative m =>
      if m.units = 0 then
        .finite negative m
      else
        oddly negative (Rounded.first (tanAt m) angleRounds anglePrecision)
  | _ => .nan

end Binary64

end PostfixCalc
