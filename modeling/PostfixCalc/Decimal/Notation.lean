import PostfixCalc.Decimal.Shortest

/-!
# The text of a number

The exact text of a number has the digits of its shortest decimal.  They are
written around a point while the decimal exponent is from -4 to 15, and with an
exponent of at least two digits otherwise.  The display text is the same,
except that whole numbers below `2 ^ 53` lose their point and zero its sign.
-/

namespace PostfixCalc

-- Powers of whole numbers are those of the core library.
attribute [local instance (high)] instPowNat

namespace Decimal

/-- A signed exponent of at least two digits. -/
def exponentText (exponent : Int) : List Char :=
  let digits := Nat.toDigits 10 exponent.natAbs
  (if exponent < 0 then '-' else '+') ::
    (if digits.length < 2 then '0' :: digits else digits)

/-- Digits with the point after the first `point` of them; zeros fill up on
either side, and one digit at least stands after the point. -/
def positional (digits : List Char) (point : Int) : List Char :=
  if point ≤ 0 then
    '0' :: '.' :: (List.replicate (-point).toNat '0' ++ digits)
  else
    let places := point.toNat
    let whole := digits.take places ++ List.replicate (places - digits.length) '0'
    let fraction := digits.drop places
    whole ++ '.' :: (if fraction.isEmpty then ['0'] else fraction)

/-- Digits with the point after the first one and an exponent. -/
def scientific (digits : List Char) (exponent : Int) : List Char :=
  let rest := digits.drop 1
  digits.take 1 ++ (if rest.isEmpty then [] else '.' :: rest) ++
    'e' :: exponentText exponent

/-- Digits of which the first `point` stand before the decimal point, in the
form that suits their exponent. -/
def layout (digits : List Char) (point : Int) : List Char :=
  if -4 < point ∧ point ≤ 16 then
    positional digits point
  else
    scientific digits (point - 1)

/-- Leave out the zeros at the end. -/
def trimZeros (digits : List Char) : List Char :=
  (digits.reverse.dropWhile (· == '0')).reverse

end Decimal

namespace Magnitude

/-- The text of a magnitude: its shortest decimal, laid out. -/
def text (m : Magnitude) : List Char :=
  if m.units = 0 then
    ['0', '.', '0']
  else
    let shortest := m.shortest
    let digits := Nat.toDigits 10 shortest.coefficient
    Decimal.layout (Decimal.trimZeros digits) (digits.length + shortest.exponent)

end Magnitude

namespace Binary64

/-- The exact text: the fewest digits that read back as the same number. -/
def text : Binary64 → String
  | .nan => "nan"
  | .infinity negative => if negative then "-inf" else "inf"
  | .finite negative m => String.ofList (if negative then '-' :: m.text else m.text)

/-- The whole part, toward zero. -/
def wholePart : Binary64 → Except Fault Int
  | .finite negative m =>
      let whole := m.units / Magnitude.one
      .ok (if negative then -(whole : Int) else whole)
  | _ => .error .noWholePart

/-- Is this a whole number that has neighbours one apart? -/
def isSmallWhole : Binary64 → Bool
  | .finite negative m =>
      isWhole (.finite negative m) && m.units < 2 ^ (53 : Nat) * Magnitude.one
  | _ => false

/-- The text for display: whole numbers below `2 ^ 53` without their point,
all others as their exact text. -/
def display (x : Binary64) : Except Fault String :=
  if x.isSmallWhole then do
    let whole ← x.wholePart
    return toString whole
  else
    return x.text

/-- Every number has a text for display: what is whole has a whole part. -/
theorem exists_display (x : Binary64) : ∃ text, x.display = .ok text := by
  unfold display
  split
  · cases x with
    | nan => contradiction
    | infinity negative => contradiction
    | finite negative m => exact ⟨_, rfl⟩
  · exact ⟨_, rfl⟩

end Binary64

end PostfixCalc
