import PostfixCalc.Binary64.Basic

/-!
# Rounding to the nearest binary floating-point number

An exact quotient of whole numbers of units is rounded to the nearest
magnitude, and a quotient halfway between two magnitudes goes to the one with
the even significand.  From `2 ^ 1024 - 2 ^ 970` on, the result is infinite.
-/

namespace PostfixCalc

-- Powers of whole numbers are those of the core library.
attribute [local instance (high)] instPowNat

/-- The whole number nearest to `n / d`; a half goes to the even neighbour. -/
def roundQuotient (n d : Nat) : Nat :=
  let q := n / d
  let twice := 2 * (n % d)
  if twice < d ∨ (twice = d ∧ q % 2 = 0) then q else q + 1

theorem div_le_roundQuotient (n d : Nat) : n / d ≤ roundQuotient n d := by
  unfold roundQuotient
  dsimp only
  split <;> omega

theorem roundQuotient_le (n d : Nat) : roundQuotient n d ≤ n / d + 1 := by
  unfold roundQuotient
  dsimp only
  split <;> omega

namespace Magnitude

/-- The scale at which the whole part of `n / d` keeps 53 bits, or the least. -/
def scaleFor (n d : Nat) : Nat :=
  (n / d).log2 - 52

/-- The significand of `n / d` units at its scale, rounded to nearest. -/
def significandFor (n d : Nat) : Nat :=
  roundQuotient n (d * 2 ^ scaleFor n d)

theorem significandFor_le (n d : Nat) : significandFor n d ≤ 2 ^ (53 : Nat) := by
  have hlt : n / (d * 2 ^ scaleFor n d) < 2 ^ (53 : Nat) := by
    rw [← Nat.div_div_eq_div_mul, Nat.div_lt_iff_lt_mul (Nat.two_pow_pos _),
      ← Nat.pow_add]
    refine Nat.lt_of_lt_of_le (Nat.lt_log2_self (n := n / d)) ?_
    exact Nat.pow_le_pow_right (by decide) (by unfold scaleFor; omega)
  have := roundQuotient_le n (d * 2 ^ scaleFor n d)
  unfold significandFor
  omega

theorem scaleFor_eq_or_le (n d : Nat) :
    scaleFor n d = 0 ∨ 2 ^ (52 : Nat) ≤ significandFor n d := by
  by_cases h : scaleFor n d = 0
  · exact .inl h
  · right
    have hlog : 52 ≤ (n / d).log2 := by
      unfold scaleFor at h
      omega
    have hne : n / d ≠ 0 := by
      intro h0
      rw [h0] at hlog
      exact absurd hlog (by decide)
    refine Nat.le_trans ?_ (div_le_roundQuotient n (d * 2 ^ scaleFor n d))
    rw [← Nat.div_div_eq_div_mul, Nat.le_div_iff_mul_le (Nat.two_pow_pos _),
      ← Nat.pow_add]
    refine Nat.le_trans ?_ (Nat.log2_self_le hne)
    exact Nat.pow_le_pow_right (by decide) (by unfold scaleFor; omega)

/-- The magnitude of a significand and a scale, if they are its written form. -/
def ofParts? (significand scale : Nat) : Option Magnitude :=
  if h : significand < 2 ^ (53 : Nat) ∧ scale ≤ 2045 ∧
      (scale = 0 ∨ 2 ^ (52 : Nat) ≤ significand) then
    some
      { significand, scale
        significand_lt := h.1
        scale_le := h.2.1
        scale_eq_or_le := h.2.2 }
  else
    none

theorem ofParts?_eq_some (m : Magnitude) : ofParts? m.significand m.scale = some m :=
  dif_pos ⟨m.significand_lt, m.scale_le, m.scale_eq_or_le⟩

theorem ofParts?_eq_none {significand scale : Nat} (h : 2045 < scale) :
    ofParts? significand scale = none :=
  dif_neg fun hparts => absurd hparts.2.1 (Nat.not_le.2 h)

/-- The magnitude nearest to `n / d` units, unless that is infinite.  A
significand that rounds up to 54 bits is the least one of the next scale. -/
@[irreducible]
def nearest? (n d : Nat) : Option Magnitude :=
  if significandFor n d = 2 ^ (53 : Nat) then
    ofParts? (2 ^ (52 : Nat)) (scaleFor n d + 1)
  else
    ofParts? (significandFor n d) (scaleFor n d)

/-- Up to the greatest scale there is a nearest magnitude. -/
theorem isSome_nearest? {n d : Nat} (h : scaleFor n d < 2045) : (nearest? n d).isSome := by
  have hle := significandFor_le n d
  have hfull := scaleFor_eq_or_le n d
  unfold nearest?
  split
  · rw [ofParts?, dif_pos ⟨by decide, by omega, .inr (Nat.le_refl _)⟩]
    rfl
  · rw [ofParts?, dif_pos ⟨by omega, by omega, hfull⟩]
    rfl

end Magnitude

namespace Binary64

/-- The number nearest to `n / d` units, with the given sign. -/
def ofQuotient (negative : Bool) (n d : Nat) : Binary64 :=
  match Magnitude.nearest? n d with
  | some m => .finite negative m
  | none => .infinity negative

/-- The number nearest to a whole number of units, zero being unsigned. -/
def ofUnits (units : Int) : Binary64 :=
  ofQuotient (units < 0) units.natAbs 1

end Binary64

end PostfixCalc
