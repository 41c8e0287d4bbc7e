import PostfixCalc.Binary64.Rounding
import PostfixCalc.Fault

/-!
# Decimal literals

A literal is an optional sign, digits with at most one point among or beside
them, and an optional exponent of ten.  Only the ten ASCII digits count.  A
literal denotes an exact decimal, and reading rounds that decimal once.
-/

namespace PostfixCalc

-- Powers of whole numbers are those of the core library.
attribute [local instance (high)] instPowNat

/-- The exact number `coefficient * 10 ^ exponent`, with a sign that zero
keeps too. -/
structure Decimal where
  negative : Bool
  coefficient : Nat
  exponent : Int
  deriving DecidableEq, Repr

namespace Decimal

/-- The magnitude as an exact quotient of units. -/
def quotient (d : Decimal) : Nat × Nat :=
  (d.coefficient * 10 ^ d.exponent.toNat * Magnitude.one, 10 ^ (-d.exponent).toNat)

/-- The nearest binary number.  Exponents so large or so small that the result
is plain are answered without raising ten to them.  Ten is more than eight, so
`10 ^ k` is beyond the finite numbers when `1024 ≤ 3 * k`, and a coefficient of
`b` bits over `10 ^ k` is below half a unit when `b + 1075 ≤ 3 * k`. -/
def toBinary64 (d : Decimal) : Binary64 :=
  if d.coefficient = 0 ∨
      d.coefficient.log2 + 1 + (Magnitude.places + 1) ≤ 3 * (-d.exponent).toNat then
    .zero d.negative
  else
    if 1024 ≤ 3 * d.exponent.toNat then
      .infinity d.negative
    else
      .ofQuotient d.negative d.quotient.1 d.quotient.2

/-- The whole number that a list of ASCII digits spells. -/
def digitsValue (digits : List Char) : Nat :=
  digits.foldl (fun n c => 10 * n + (c.toNat - '0'.toNat)) 0

/-- Split off a sign; `true` is minus, and no sign is plus. -/
def takeSign : List Char → Bool × List Char
  | '+' :: rest => (false, rest)
  | '-' :: rest => (true, rest)
  | rest => (false, rest)

/-- Split off the longest run of ASCII digits. -/
def takeDigits (text : List Char) : List Char × List Char :=
  (text.takeWhile Char.isDigit, text.dropWhile Char.isDigit)

/-- Split off a point and the digits after it, if there is a point. -/
def takeFraction : List Char → List Char × List Char
  | '.' :: rest => takeDigits rest
  | rest => ([], rest)

/-- A signed whole number that is the entire text. -/
def parseExponent? (text : List Char) : Option Int :=
  let (negative, digits) := takeSign text
  if !digits.isEmpty && digits.all Char.isDigit then
    let n := digitsValue digits
    some (if negative then -(n : Int) else n)
  else
    none

/-- The exponent that ends a literal; none at all counts as zero. -/
def parseTail? : List Char → Option Int
  | [] => some 0
  | mark :: rest =>
      if mark = 'e' ∨ mark = 'E' then parseExponent? rest else none

/-- The exact decimal that a literal denotes, if the text is a literal. -/
def parse? (text : List Char) : Option Decimal :=
  let (negative, body) := takeSign text
  let (whole, afterWhole) := takeDigits body
  let (fraction, tail) := takeFraction afterWhole
  if whole.isEmpty && fraction.isEmpty then
    none
  else
    (parseTail? tail).map fun exponent =>
      { negative
        coefficient := digitsValue (whole ++ fraction)
        exponent := exponent - fraction.length }

end Decimal

namespace Binary64

/-- The numbers that are written as words, in any mix of cases. -/
def ofWord? (text : List Char) : Option Binary64 :=
  let (negative, word) := Decimal.takeSign text
  match String.ofList (word.map Char.toLower) with
  | "inf" | "infinity" => some (.infinity negative)
  | "nan" => some .nan
  | _ => none

/-- Read a literal or a word as the nearest number; any other text is a
fault. -/
def read (text : String) : Except Fault Binary64 :=
  match Decimal.parse? text.toList with
  | some d => .ok d.toBinary64
  | none =>
      match ofWord? text.toList with
      | some x => .ok x
      | none => .error (.notANumber text)

end Binary64

end PostfixCalc
