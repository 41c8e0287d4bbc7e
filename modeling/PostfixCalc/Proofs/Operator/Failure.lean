import PostfixCalc.Binary64.Nearest
import PostfixCalc.Proofs.Operator.Power

/-!
# When operators fail

The primitives trap, but the operators guard every trap: an operator fails only
on a quotient by zero and on the square root of a number below zero, and then by
the error of the expression that says so (`BinaryOperator.apply_eq_error_iff`,
`UnaryOperator.apply_eq_error_iff`).  The one guard that is not a plain test is
that of the angles: an angle that is finite in degrees stays finite in radians,
because a degree is less than half a radian.
-/

namespace PostfixCalc

-- Powers of whole numbers are those of the core library.
attribute [local instance (high)] instPowNat

/-! ## Angles -/

namespace Magnitude

theorem log2_units_le (m : Magnitude) : m.units.log2 ≤ 2097 := by
  have hscale := scaleFor_units m
  have hle := m.scale_le
  rw [scaleFor, Nat.div_one] at hscale
  omega

/-- A quotient of half a magnitude, or less, does not overflow. -/
theorem isSome_nearest?_of_le_half {m : Magnitude} {n d : Nat} (h : 2 * (n / d) ≤ m.units) :
    (nearest? n d).isSome := by
  apply isSome_nearest?
  unfold scaleFor
  by_cases hzero : n / d = 0
  · rw [hzero]
    decide
  · have hpow : 2 ^ ((n / d).log2 + 1) ≤ m.units := by
      have hself := Nat.log2_self_le hzero
      rw [Nat.pow_succ]
      omega
    have hlog : (n / d).log2 + 1 ≤ m.units.log2 := (Nat.le_log2 (by omega)).2 hpow
    have hle := log2_units_le m
    omega

end Magnitude

namespace Binary64

/-- Is this at least zero and at most one half? -/
def isHalfAtMost : Binary64 → Bool
  | .finite negative m => !negative && 2 * m.units ≤ Magnitude.one
  | _ => false

/-- The size of a degree is at most half a radian. -/
theorem exists_degree : ∃ m : Magnitude,
    div halfTurn (ofUnits (180 * Magnitude.one)) = .finite false m ∧
      2 * m.units ≤ Magnitude.one := by
  have hsize : isHalfAtMost (div halfTurn (ofUnits (180 * Magnitude.one))) = true := by
    decide +kernel
  cases hdegree : div halfTurn (ofUnits (180 * Magnitude.one)) with
  | nan => simp [hdegree, isHalfAtMost] at hsize
  | infinity negative => simp [hdegree, isHalfAtMost] at hsize
  | finite negative m =>
      rw [hdegree] at hsize
      obtain ⟨hsign, hhalf⟩ : negative = false ∧ 2 * m.units ≤ Magnitude.one := by
        simpa [isHalfAtMost] using hsize
      exact ⟨m, by rw [hsign], hhalf⟩

/-- An angle that is finite in degrees is finite in radians. -/
theorem exists_radians (negative : Bool) (m : Magnitude) :
    ∃ s n, radians (.finite negative m) = .finite s n := by
  obtain ⟨degree, hdegree, hhalf⟩ := exists_degree
  -- Halving leaves room for the rounding, which at most doubles.
  have hle : 2 * (m.units * degree.units / Magnitude.one) ≤ m.units := by
    apply Nat.le_of_mul_le_mul_right _ Magnitude.one_pos
    calc
      2 * (m.units * degree.units / Magnitude.one) * Magnitude.one
          ≤ 2 * (m.units * degree.units) := by
        rw [Nat.mul_assoc]
        exact Nat.mul_le_mul_left 2 (Nat.div_mul_le_self _ _)
      _ = m.units * (2 * degree.units) := Nat.mul_left_comm ..
      _ ≤ m.units * Magnitude.one := Nat.mul_le_mul_left _ hhalf
  obtain ⟨n, hn⟩ := Option.isSome_iff_exists.1 (Magnitude.isSome_nearest?_of_le_half hle)
  refine ⟨negative != false, n, ?_⟩
  unfold radians
  rw [hdegree]
  exact ofQuotient_of_some _ hn

end Binary64

/-- The functions of an angle have a value at every angle. -/
theorem exists_ofDegrees (f : Binary64 → Binary64) (degrees : Binary64) :
    ∃ value, ofDegrees f degrees = .ok value := by
  unfold ofDegrees
  cases degrees with
  | nan => exact ⟨_, rfl⟩
  | infinity negative => exact ⟨_, rfl⟩
  | finite negative m =>
      obtain ⟨s, n, hradians⟩ := Binary64.exists_radians negative m
      rw [hradians]
      exact ⟨_, rfl⟩

/-! ## Quotients and roots -/

theorem divide_of_isZero (left : Binary64) {right : Binary64} (h : right.isZero = true) :
    divide left right = .error (.expression .divisionByZero) := by
  rw [divide, if_pos h]

theorem divide_of_not_isZero (left : Binary64) {right : Binary64} (h : right.isZero = false) :
    divide left right = .ok (left.div right) := by
  simp [divide, Binary64.divTrapping, h, Failure.ofFaulty]

theorem squareRoot_of_isBelowZero {only : Binary64} (h : only.isBelowZero = true) :
    squareRoot only = .error (.expression (.negativeSqrt only)) := by
  rw [squareRoot, if_pos h]

theorem squareRoot_of_not_isBelowZero {only : Binary64} (h : only.isBelowZero = false) :
    squareRoot only = .ok only.sqrt := by
  simp [squareRoot, Binary64.sqrtTrapping, h, Failure.ofFaulty]

/-! ## The operators -/

/-- An operator of one operand fails on the root of a number below zero only. -/
theorem UnaryOperator.apply_eq_error_iff {op : UnaryOperator} {only : Binary64} {e : Failure} :
    op.apply only = .error e ↔
      op = .sqrt ∧ only.isBelowZero = true ∧ e = .expression (.negativeSqrt only) := by
  cases op with
  | sqrt =>
      show squareRoot only = .error e ↔ _
      cases h : only.isBelowZero with
      | true =>
          rw [squareRoot_of_isBelowZero h]
          simp [eq_comm]
      | false =>
          rw [squareRoot_of_not_isBelowZero h]
          simp
  | sin =>
      obtain ⟨value, hvalue⟩ := exists_ofDegrees .sin only
      simp [UnaryOperator.apply, hvalue]
  | cos =>
      obtain ⟨value, hvalue⟩ := exists_ofDegrees .cos only
      simp [UnaryOperator.apply, hvalue]
  | tan =>
      obtain ⟨value, hvalue⟩ := exists_ofDegrees .tan only
      simp [UnaryOperator.apply, hvalue]

/-- An operator of two operands fails on a quotient by zero only. -/
theorem BinaryOperator.apply_eq_error_iff {op : BinaryOperator} {left right : Binary64}
    {e : Failure} :
    op.apply left right = .error e ↔
      op = .div ∧ right.isZero = true ∧ e = .expression .divisionByZero := by
  cases op with
  | add => simp [BinaryOperator.apply]
  | sub => simp [BinaryOperator.apply]
  | mul => simp [BinaryOperator.apply]
  | div =>
      show divide left right = .error e ↔ _
      cases h : right.isZero with
      | true =>
          rw [divide_of_isZero left h]
          simp [eq_comm]
      | false =>
          rw [divide_of_not_isZero left h]
          simp
  | pow =>
      show power left right = .error e ↔ _
      rw [power_eq_pow]
      simp

end PostfixCalc
