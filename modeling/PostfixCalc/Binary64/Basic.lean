/-!
# Binary floating-point numbers of 64 bits

A finite number is a sign and a magnitude, and a magnitude is a whole number of
units of `2 ^ -1074`, written with a significand of at most 53 bits and a power
of two.  There is one value that is not a number.  Everything here is exact
arithmetic on `Nat` and `Int`; no operation of the hardware is involved.
-/

namespace PostfixCalc

-- Powers of whole numbers are those of the core library.
attribute [local instance (high)] instPowNat

/-- A magnitude in its only written form: `significand * 2 ^ scale` units of
`2 ^ -1074`, where the significand has all its 53 bits unless the scale is the
least one. -/
@[ext]
structure Magnitude where
  significand : Nat
  scale : Nat
  significand_lt : significand < 2 ^ (53 : Nat)
  scale_le : scale ≤ 2045
  scale_eq_or_le : scale = 0 ∨ 2 ^ (52 : Nat) ≤ significand
  deriving DecidableEq

namespace Magnitude

/-- The number of units of `2 ^ -1074` in a magnitude. -/
def units (m : Magnitude) : Nat :=
  m.significand * 2 ^ m.scale

/-- The binary places of a unit. -/
@[irreducible]
def places : Nat :=
  1074

theorem places_eq : places = 1074 := by
  unfold places
  rfl

/-- How many units make one. -/
def one : Nat :=
  2 ^ places

theorem one_pos : 0 < one :=
  Nat.two_pow_pos places

def zero : Magnitude where
  significand := 0
  scale := 0
  significand_lt := by decide
  scale_le := by decide
  scale_eq_or_le := .inl rfl

instance : Inhabited Magnitude := ⟨zero⟩

/-- The magnitude of one. -/
def unity : Magnitude where
  significand := 2 ^ (52 : Nat)
  scale := 1022
  significand_lt := by decide
  scale_le := by decide
  scale_eq_or_le := .inr (Nat.le_refl _)

theorem units_unity : unity.units = one := by
  have hplaces : places = 52 + unity.scale := places_eq
  have hsig : unity.significand = 2 ^ (52 : Nat) := rfl
  unfold units one
  rw [hplaces, hsig, Nat.pow_add]

@[simp] theorem units_zero : zero.units = 0 := by
  simp [zero, units]

theorem units_eq_zero_iff (m : Magnitude) : m.units = 0 ↔ m = zero := by
  obtain ⟨s, k, hs, hk, hn⟩ := m
  constructor
  · intro h
    have hs0 : s = 0 := by
      simpa [units, Nat.mul_eq_zero, Nat.pow_eq_zero] using h
    subst hs0
    have hk0 : k = 0 := by
      rcases hn with hn | hn
      · exact hn
      · exact absurd hn (by decide)
    subst hk0
    rfl
  · intro h
    rw [h, units_zero]

end Magnitude

/-- A binary floating-point number of 64 bits. -/
inductive Binary64 where
  | nan
  | infinity (negative : Bool)
  | finite (negative : Bool) (magnitude : Magnitude)
  deriving DecidableEq

namespace Binary64

/-- Zero with the given sign. -/
def zero (negative : Bool) : Binary64 :=
  .finite negative .zero

instance : Inhabited Binary64 := ⟨zero false⟩

/-- One. -/
def one : Binary64 :=
  .finite false .unity

def isFinite : Binary64 → Bool
  | .finite _ _ => true
  | _ => false

/-- Is this a zero, of either sign? -/
def isZero : Binary64 → Bool
  | .finite _ m => m.units = 0
  | _ => false

/-- Is this a number below zero?  No zero is, and neither is `nan`. -/
def isBelowZero : Binary64 → Bool
  | .nan => false
  | .infinity negative => negative
  | .finite negative m => negative && m.units ≠ 0

/-- The sign bit; that of `nan` is not observable and counts as unset. -/
def isSigned : Binary64 → Bool
  | .nan => false
  | .infinity negative => negative
  | .finite negative _ => negative

/-- The signed number of units of a finite number. -/
def signedUnits? : Binary64 → Option Int
  | .finite negative m => some (if negative then -(m.units : Int) else m.units)
  | _ => none

/-- Is this a whole number? -/
def isWhole : Binary64 → Bool
  | .finite _ m => m.units % Magnitude.one = 0
  | _ => false

/-- Is this an odd whole number? -/
def isOdd : Binary64 → Bool
  | .finite _ m => m.units % Magnitude.one = 0 && m.units / Magnitude.one % 2 = 1
  | _ => false

/-- The same number with the sign bit unset. -/
def abs : Binary64 → Binary64
  | .nan => .nan
  | .infinity _ => .infinity false
  | .finite _ m => .finite false m

/-- The same number with the other sign. -/
def neg : Binary64 → Binary64
  | .nan => .nan
  | .infinity negative => .infinity (!negative)
  | .finite negative m => .finite (!negative) m

/-- The number with the sign bit replaced. -/
def withSign (negative : Bool) : Binary64 → Binary64
  | .nan => .nan
  | .infinity _ => .infinity negative
  | .finite _ m => .finite negative m

/-- Numerical equality: the zeros are equal, and `nan` equals nothing. -/
def numEq : Binary64 → Binary64 → Bool
  | .infinity s, .infinity t => s == t
  | .finite s m, .finite t n =>
      m = n && (s == t || m.units = 0)
  | _, _ => false

end Binary64

end PostfixCalc
