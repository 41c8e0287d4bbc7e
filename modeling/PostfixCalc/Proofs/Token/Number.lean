import Mathlib.Algebra.Order.Field.Power
import PostfixCalc.Decimal.Reading
import PostfixCalc.Proofs.Binary64.Overflow
import PostfixCalc.Proofs.Decimal.Grammar
import PostfixCalc.Token

/-!
# Which tokens are numbers

A token is a number if and only if it is a literal that denotes less than
`2 ^ 1024 - 2 ^ 970`, in absolute value (`number?_isSome_iff`).  From there on the
nearest number is infinite, however long the literal and however large its exponent.
-/

namespace PostfixCalc

-- Powers of whole numbers are those of the core library.
attribute [local instance (high)] instPowNat

namespace Decimal

theorem abs_toRat (d : Decimal) : |d.toRat| = d.coefficient * 10 ^ d.exponent := by
  have hsign : |(if d.negative then -1 else 1 : ℚ)| = 1 := by
    split <;> simp
  rw [toRat, mul_assoc, abs_mul, hsign, one_mul]
  exact abs_of_nonneg (by positivity)

/-- The terms of an exact quotient have the number that it is as their quotient. -/
theorem cast_mul_ten_pow (c : ℕ) (k : ℤ) :
    (c : ℚ) * 10 ^ k.toNat = c * 10 ^ k * 10 ^ (-k).toNat := by
  rw [mul_assoc, ← zpow_natCast, ← zpow_natCast, ← zpow_add₀ (by norm_num)]
  congr 2
  omega

/-- Comparing an exact quotient is comparing the number that it is. -/
theorem mul_ten_pow_lt_iff (c limit : ℕ) (k : ℤ) :
    c * 10 ^ k.toNat < limit * 10 ^ (-k).toNat ↔ (c : ℚ) * 10 ^ k < limit := by
  have hpos : (0 : ℚ) < 10 ^ (-k).toNat := by positivity
  rw [← @Nat.cast_lt ℚ]
  push_cast
  rw [cast_mul_ten_pow]
  exact mul_lt_mul_iff_left₀ hpos

theorem cast_limit : (Magnitude.limit : ℚ) = 2 ^ 1024 - 2 ^ 970 := by
  have hsplit : ∀ m n : ℕ, (((2 ^ m - 1) * 2 ^ n : ℕ) : ℚ) = 2 ^ (m + n) - 2 ^ n := by
    intro m n
    rw [Nat.cast_mul, Nat.cast_sub Nat.one_le_two_pow]
    push_cast
    rw [pow_add, sub_mul, one_mul]
  rw [Magnitude.limit_eq]
  exact hsplit 54 970

/-- A decimal reads as a finite number if and only if it is below the limit. -/
theorem toBinary64_isFinite_iff (d : Decimal) :
    d.toBinary64.isFinite = true ↔ |d.toRat| < 2 ^ 1024 - 2 ^ 970 := by
  have hden : 0 < 10 ^ (-d.exponent).toNat := Nat.pow_pos (by decide)
  have hone := Magnitude.one_pos
  rw [toBinary64_eq, abs_toRat, ← cast_limit, ← mul_ten_pow_lt_iff]
  show (Binary64.ofQuotient _ (d.coefficient * 10 ^ d.exponent.toNat * Magnitude.one)
    (10 ^ (-d.exponent).toNat)).isFinite = true ↔ _
  rw [Binary64.ofQuotient_isFinite_iff _ hden, Nat.mul_right_comm Magnitude.limit,
    Nat.mul_lt_mul_right hone]

end Decimal

namespace Token

/-- A token is a number if and only if it is a literal below the limit; nothing else
is, and telling numbers from other tokens never fails. -/
theorem number?_isSome_iff (token : String) :
    ∃ value, number? token = .ok value ∧
      (value.isSome = true ↔
        ∃ q, Decimal.Denotes token.toList q ∧ |q| < 2 ^ 1024 - 2 ^ 970) := by
  cases h : Decimal.parse? token.toList with
  | none =>
      refine ⟨none, number?_of_not_literal h, iff_of_false (by simp) ?_⟩
      rintro ⟨q, hq, -⟩
      obtain ⟨d, hd, -⟩ := hq.exists_parse?
      rw [h] at hd
      contradiction
  | some d =>
      refine ⟨_, number?_of_literal h, ?_⟩
      have hdenotes := Decimal.denotes_of_parse? h
      constructor
      · intro hsome
        have hfinite : d.toBinary64.isFinite = true := by
          by_contra hinfinite
          simp [hinfinite] at hsome
        exact ⟨d.toRat, hdenotes, d.toBinary64_isFinite_iff.1 hfinite⟩
      · rintro ⟨q, hq, hlimit⟩
        rw [hq.unique hdenotes] at hlimit
        simp [d.toBinary64_isFinite_iff.2 hlimit]

/-! No exponent decides alone: the last digit here is the first to be too large, and zero
is a number with any exponent. -/

example : (number? "1.7976931348623158e308").map Option.isSome = .ok true := by
  decide +kernel

example : (number? "1.7976931348623159e308").map Option.isSome = .ok false := by
  decide +kernel

example : (number? "0e999999").map Option.isSome = .ok true := by
  decide +kernel

end Token

end PostfixCalc
