import PostfixCalc.Binary64.Arithmetic
import PostfixCalc.Enclosure.Rounding
import PostfixCalc.Enclosure.Series

/-!
# Powers

The power of two numbers, correctly rounded, with the special cases of
IEEE 754.  A power that is a rational number with few bits is computed exactly;
any other lies off every rounding boundary and is rounded from an enclosure of
`exp (y * log x)`.
-/

namespace PostfixCalc

-- Powers of whole numbers are those of the core library.
attribute [local instance (high)] instPowNat

/-- A positive number `odd * 2 ^ twos` with an odd factor. -/
structure OddFactored where
  odd : Nat
  twos : Int
  deriving DecidableEq, Repr

namespace OddFactored

/-- Take factors of two out of `n`, at most `fuel` of them. -/
def takeTwos : Nat → Nat → Nat × Nat
  | 0, n => (n, 0)
  | fuel + 1, n =>
      if n % 2 = 0 then
        let (odd, twos) := takeTwos fuel (n / 2)
        (odd, twos + 1)
      else
        (n, 0)

/-- The factors of a magnitude other than zero. -/
def ofMagnitude (m : Magnitude) : OddFactored :=
  let (odd, twos) := takeTwos 53 m.significand
  { odd, twos := (twos : Int) + m.scale - Magnitude.places }

/-- The exact square root, if it is again of this form. -/
def sqrt? (x : OddFactored) : Option OddFactored :=
  let root := floorSqrt x.odd
  if root * root = x.odd ∧ x.twos % 2 = 0 then
    some { odd := root, twos := x.twos / 2 }
  else
    none

/-- The exact root of order `2 ^ n`, if it is again of this form.  One is its
own root of every order. -/
def root? : Nat → OddFactored → Option OddFactored
  | 0, x => some x
  | n + 1, x => x.sqrt?.bind (root? n)

/-- The power `x ^ k`, or its reciprocal, rounded once. -/
def power (x : OddFactored) (reciprocal : Bool) (k : Nat) : Binary64 :=
  let factor := x.odd ^ k
  let shift : Int := (if reciprocal then -(x.twos * k) else x.twos * k) + Magnitude.places
  let up := 2 ^ shift.toNat
  let down := 2 ^ (-shift).toNat
  if reciprocal then
    .ofQuotient false up (factor * down)
  else
    .ofQuotient false (factor * up) down

/-- A power of two, rounded once; exponents out of reach are not raised. -/
def powerOfTwo (exponent : Int) : Binary64 :=
  if exponent < -1080 then
    .zero false
  else
    if 1030 < exponent then .infinity false else power ⟨1, exponent⟩ false 1

end OddFactored

namespace Binary64

/-- The exponents of which `x ^ k` is computed exactly.  The odd part of `x` is
one, which makes a power of two, or at least three, and then a power beyond the
64th has too many bits to lie on a rounding boundary. -/
def maxExactExponent : Nat :=
  64

/-- The power as an exact quotient, if it is one of few bits.  With
`y = k * 2 ^ -n`, that takes an exact root of `x` of order `2 ^ n`. -/
def exactPower? (m : Magnitude) (reciprocal : Bool) (e : Magnitude) : Option Binary64 :=
  let x := OddFactored.ofMagnitude m
  let y := OddFactored.ofMagnitude e
  match x.root? (-y.twos).toNat with
  | none => none
  | some r =>
      let k := y.odd * 2 ^ y.twos.toNat
      if r.odd = 1 then
        some (OddFactored.powerOfTwo (if reciprocal then -(r.twos * k) else r.twos * k))
      else
        if k ≤ maxExactExponent then some (r.power reciprocal k) else none

/-- An enclosure of the natural logarithm of a magnitude other than zero. -/
def logMagnitude (p : Nat) (m : Magnitude) : Enclosure p :=
  let digits := m.significand.log2
  let exponent : Int := (digits : Int) + m.scale - Magnitude.places
  (Enclosure.logRatio p m.significand (2 ^ digits)).add ((Enclosure.logTwo p).scale exponent 1)

/-- The power at working precision `p`.  Results beyond `exp 720` and below
`exp (-760)` are plain. -/
def powerAt (m : Magnitude) (reciprocal : Bool) (e : Magnitude) (p : Nat) : Rounded :=
  let n : Int := if reciprocal then -(e.units : Int) else e.units
  let exponent := (logMagnitude p m).scale n Magnitude.one
  if 720 * 2 ^ p < exponent.lo then
    .sure (.infinity false)
  else
    if exponent.hi < -760 * 2 ^ p then
      .sure (.zero false)
    else
      if 2000 < exponent.wholeMagnitude then
        .unsure (.zero false)
      else
        let logTwo := Enclosure.logTwo p
        let twos := exponent.lo / logTwo.hi
        let rest := exponent.sub (logTwo.scale twos 1)
        (Enclosure.exp rest).round twos

/-- The power of a magnitude other than zero and one to an exponent other than
zero.  The exponent magnifies the error of the logarithm, hence the precision to
start with. -/
def powerMagnitude (m : Magnitude) (reciprocal : Bool) (e : Magnitude) : Binary64 :=
  match exactPower? m reciprocal e with
  | some x => x
  | none => Rounded.first (powerAt m reciprocal e) 5 192

/-- Zero to a power other than zero. -/
def powerOfZero (signed : Bool) (reciprocal : Bool) : Binary64 :=
  if reciprocal then .infinity signed else .zero signed

/-- The power function of IEEE 754. -/
def pow (x y : Binary64) : Binary64 :=
  if y.isZero || x = one then
    one
  else
    match x, y with
    | .nan, _ => .nan
    | _, .nan => .nan
    | .infinity _, .infinity t => powerOfInfinity false t
    | .infinity s, .finite t n => powerOfInfinity (s && isOdd (.finite t n)) t
    | .finite _ m, .infinity t =>
        if m = .unity then
          one
        else
          powerOfZero false (if m.units < Magnitude.one then t else !t)
    | .finite s m, .finite t n =>
        let odd := isOdd (.finite t n)
        if m.units = 0 then
          powerOfZero (s && odd) t
        else
          if s && !isWhole (.finite t n) then
            .nan
          else
            if m = .unity then
              one.withSign (s && odd)
            else
              (powerMagnitude m t n).withSign (s && odd)
where
  /-- Infinity to a power other than zero. -/
  powerOfInfinity (signed : Bool) (reciprocal : Bool) : Binary64 :=
    powerOfZero signed (!reciprocal)

end Binary64

end PostfixCalc
