import PostfixCalc.Decimal.Literal

/-!
# Shortest decimals

Every finite binary number has an exact decimal expansion with at most 1074
places.  The shortest decimal of a number is the first, cutting that expansion
after one digit, after two, and so on, that reads back as the same number.  Of
the two neighbours at a cut the nearer one is taken, and a tie goes to the even
last digit.
-/

namespace PostfixCalc

-- Powers of whole numbers are those of the core library.
attribute [local instance (high)] instPowNat

/-- The number of decimal digits of a positive number.  Its binary logarithm
tells this but for one digit, as long as the number has fewer than ten thousand
bits. -/
def decimalLength (n : Nat) : Nat :=
  let estimate := n.log2 * 30103 / 100000
  if 10 ^ estimate ≤ n then
    if 10 ^ (estimate + 1) ≤ n then estimate + 2 else estimate + 1
  else
    estimate

namespace Magnitude

/-- The magnitude as a whole number of `10 ^ -1074`: a unit is `5 ^ 1074` of
them. -/
def decimalUnits (m : Magnitude) : Nat :=
  m.units * 5 ^ places

/-- The exact decimal expansion of the magnitude. -/
def expansion (m : Magnitude) : Decimal where
  negative := false
  coefficient := m.decimalUnits
  exponent := -(places : Int)

/-- Does a decimal round to this magnitude? -/
def readsBack (m : Magnitude) (d : Decimal) : Bool :=
  d.toBinary64 = .finite false m

/-- The whole numbers on either side of `n / d`, the nearer one first. -/
def neighbours (n d : Nat) : List Nat :=
  let below := n / d
  let nearest := roundQuotient n d
  [nearest, if nearest = below then below + 1 else below]

/-- The decimal that drops `dropped` digits of the exact expansion and still
reads back, if one of its two neighbours does. -/
def cutAt? (m : Magnitude) (dropped : Nat) : Option Decimal :=
  let candidates := (neighbours m.decimalUnits (10 ^ dropped)).map fun coefficient =>
    { negative := false, coefficient, exponent := dropped - places : Decimal }
  candidates.find? m.readsBack

/-- The shortest decimal that reads back.  Nothing dropped is the exact
expansion, which always reads back. -/
def shortest (m : Magnitude) : Decimal :=
  ((List.range (decimalLength m.decimalUnits)).reverse.findSome? m.cutAt?).getD m.expansion

end Magnitude

end PostfixCalc
