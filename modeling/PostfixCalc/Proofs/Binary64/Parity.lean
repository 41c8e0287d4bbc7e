import PostfixCalc.Binary64.Nearest
import PostfixCalc.Binary64.Remainder

/-!
# Odd whole numbers

A number is an odd whole number if its signed units are an odd multiple of those of one
(`IsOddWhole`).  Two tests decide this, and agree therefore: the parity of the magnitude
(`isOdd_iff`), and the remainder that rounding down leaves by two, which is one above zero
also for a whole number below it (`leavesOne_iff`).  No bound on the size is needed: a
remainder by two is zero or one, and both are exact.
-/

namespace PostfixCalc

-- Powers of whole numbers are those of the core library.
attribute [local instance (high)] instPowNat

namespace Magnitude

theorem units_unity_ne_zero : unity.units ≠ 0 := by
  rw [units_unity]
  exact Nat.ne_of_gt one_pos

end Magnitude

namespace Binary64

/-- The number is an odd whole number. -/
def IsOddWhole (x : Binary64) : Prop :=
  ∃ k : Int, x.signedUnits? = some ((2 * k + 1) * Magnitude.one)

variable {x : Binary64} {negative : Bool} {m : Magnitude} {q : Nat}

theorem isWhole_finite_iff :
    (finite negative m).isWhole = true ↔ ∃ q, m.units = q * Magnitude.one := by
  simp only [isWhole, decide_eq_true_eq]
  constructor
  · intro h
    exact ⟨m.units / Magnitude.one, (Nat.div_mul_cancel (Nat.dvd_of_mod_eq_zero h)).symm⟩
  · rintro ⟨q, hq⟩
    rw [hq, Nat.mul_mod_left]

/-- The sign of an odd whole number does not matter. -/
theorem isOddWhole_finite_iff :
    IsOddWhole (finite negative m) ↔ ∃ q, m.units = q * Magnitude.one ∧ q % 2 = 1 := by
  simp only [IsOddWhole, signedUnits?, Option.some.injEq]
  constructor
  · rintro ⟨k, hk⟩
    have habs : (if negative then -(m.units : Int) else m.units).natAbs = m.units := by
      split <;> omega
    refine ⟨(2 * k + 1).natAbs, ?_, by omega⟩
    rw [← habs, hk, Int.natAbs_mul, Int.natAbs_natCast]
  · rintro ⟨q, hq, hodd⟩
    rw [hq, Int.natCast_mul]
    cases negative with
    | false =>
        have hpos : 2 * ((q / 2 : Nat) : Int) + 1 = q := by omega
        exact ⟨(q / 2 : Nat), by rw [hpos, if_neg Bool.false_ne_true]⟩
    | true =>
        have hneg : 2 * (-((q / 2 : Nat) : Int) - 1) + 1 = -q := by omega
        exact ⟨-(q / 2 : Nat) - 1, by rw [hneg, if_pos rfl, Int.neg_mul]⟩

theorem not_isOddWhole_of_not_isFinite (h : x.isFinite = false) : ¬ x.IsOddWhole := by
  cases x <;> simp_all [IsOddWhole, signedUnits?, isFinite]

/-! ## The parity of the magnitude -/

theorem isOdd_iff : x.isOdd = true ↔ x.IsOddWhole := by
  cases x with
  | nan => simp [isOdd, not_isOddWhole_of_not_isFinite (x := nan) rfl]
  | infinity negative =>
      simp [isOdd, not_isOddWhole_of_not_isFinite (x := infinity negative) rfl]
  | finite negative m =>
      rw [isOddWhole_finite_iff]
      simp only [isOdd, Bool.and_eq_true, decide_eq_true_eq]
      constructor
      · rintro ⟨hwhole, hodd⟩
        exact ⟨_, (Nat.div_mul_cancel (Nat.dvd_of_mod_eq_zero hwhole)).symm, hodd⟩
      · rintro ⟨q, hq, hodd⟩
        rw [hq, Nat.mul_mod_left, Nat.mul_div_cancel _ Magnitude.one_pos]
        exact ⟨rfl, hodd⟩

/-! ## The remainder by two -/

theorem add_two_of_neg_one : add (finite true .unity) (finite false .two) = one := by
  have hne := Magnitude.units_unity_ne_zero
  have hsum : -(Magnitude.unity.units : Int) + Magnitude.two.units = Magnitude.unity.units := by
    rw [Magnitude.units_two, Magnitude.units_unity]
    omega
  have hpos : ¬ (Magnitude.unity.units : Int) < 0 := by omega
  simp only [add, addFinite, if_true, Bool.false_eq_true, if_false, hsum, Int.natCast_eq_zero,
    if_neg hne, ofUnits, hpos, decide_false, Int.natAbs_natCast]
  exact ofQuotient_units false .unity

/-- What rounding down leaves of a whole number by two. -/
theorem floorRemainder_two (h : m.units = q * Magnitude.one) :
    (finite negative m).floorRemainder .two = if q % 2 = 1 then one else zero false := by
  have hrest : m.units % Magnitude.two.units = q % 2 * Magnitude.one := by
    rw [h, Magnitude.units_two, Nat.mul_mod_mul_right]
  unfold floorRemainder truncRemainder
  dsimp only
  rw [hrest]
  rcases Nat.mod_two_eq_zero_or_one q with heven | hodd
  · have hzero : ofQuotient negative (0 * Magnitude.one) 1 = zero negative := by
      rw [Nat.zero_mul, ← Magnitude.units_zero]
      exact ofQuotient_units negative .zero
    rw [heven, hzero]
    rfl
  · have hone : ofQuotient negative (1 * Magnitude.one) 1 = finite negative .unity := by
      rw [Nat.one_mul, ← Magnitude.units_unity]
      exact ofQuotient_units negative .unity
    rw [hodd, hone]
    cases negative with
    | false => simp [isZero, isBelowZero, Magnitude.units_unity_ne_zero, one]
    | true =>
        -- Minus one, which rounding toward zero leaves, is moved up by two.
        simp [isZero, isBelowZero, Magnitude.units_unity_ne_zero, add_two_of_neg_one]

theorem leavesOne_iff : x.leavesOne = true ↔ x.IsOddWhole := by
  cases x with
  | nan => simp [leavesOne, isWhole, not_isOddWhole_of_not_isFinite (x := nan) rfl]
  | infinity negative =>
      simp [leavesOne, isWhole, not_isOddWhole_of_not_isFinite (x := infinity negative) rfl]
  | finite negative m =>
      rw [leavesOne, Bool.and_eq_true, isWhole_finite_iff, isOddWhole_finite_iff]
      have hone : one.numEq one = true := by decide
      have hzero : (zero false).numEq one = false := by decide
      constructor
      · rintro ⟨⟨q, hq⟩, hleaves⟩
        refine ⟨q, hq, ?_⟩
        rw [floorRemainder_two hq] at hleaves
        split at hleaves
        · assumption
        · rw [hzero] at hleaves
          contradiction
      · rintro ⟨q, hq, hodd⟩
        refine ⟨⟨q, hq⟩, ?_⟩
        rw [floorRemainder_two hq, if_pos hodd, hone]

theorem leavesOne_eq_isOdd (x : Binary64) : x.leavesOne = x.isOdd := by
  rw [Bool.eq_iff_iff, leavesOne_iff, isOdd_iff]

end Binary64

end PostfixCalc
