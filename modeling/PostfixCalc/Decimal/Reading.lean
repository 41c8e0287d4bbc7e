import PostfixCalc.Binary64.Nearest
import PostfixCalc.Decimal.Shortest

/-!
# Reading rounds once

The plain answers for large and small exponents are what rounding gives too, so
that reading a decimal is one rounding of its exact quotient.  It follows that
the shortest decimal of a magnitude reads back.
-/

namespace PostfixCalc

-- Powers of whole numbers are those of the core library.
attribute [local instance (high)] instPowNat

namespace Magnitude

/-- Less than half a unit rounds to zero. -/
theorem nearest?_eq_zero {n d : Nat} (h : 2 * n < d) : nearest? n d = some zero := by
  have hq : n / d = 0 := Nat.div_eq_of_lt (by omega)
  have hscale : scaleFor n d = 0 := by
    rw [scaleFor, hq]
    decide
  have hsig : significandFor n d = 0 := by
    unfold significandFor
    rw [hscale, Nat.pow_zero, Nat.mul_one]
    simp [roundQuotient, hq, Nat.mod_eq_of_lt (show n < d by omega), h]
  unfold nearest?
  rw [hsig, hscale, if_neg (by decide)]
  exact ofParts?_eq_some zero

/-- From `2 ^ 1024` on there is no magnitude. -/
theorem nearest?_eq_none {n d e : Nat} (he : 1024 ≤ e) (h : 2 ^ (e + places) ≤ n / d) :
    nearest? n d = none := by
  have hpos : 0 < n / d := Nat.lt_of_lt_of_le (Nat.two_pow_pos _) h
  have hlog : e + places ≤ (n / d).log2 := (Nat.le_log2 (by omega)).2 h
  have hscale : 2046 ≤ scaleFor n d := by
    rw [places_eq] at hlog
    unfold scaleFor
    omega
  unfold nearest?
  split
  · exact ofParts?_eq_none (by omega)
  · exact ofParts?_eq_none (by omega)

end Magnitude

namespace Decimal

theorem eight_pow_le_ten_pow (k : Nat) : 2 ^ (3 * k) ≤ 10 ^ k := by
  rw [Nat.pow_mul]
  exact Nat.pow_le_pow_left (by decide) k

theorem two_mul_mul_two_pow (c n : Nat) : 2 * (c * 2 ^ n) = c * 2 ^ (n + 1) := by
  rw [Nat.pow_succ, Nat.mul_left_comm, Nat.mul_comm 2 (2 ^ n)]

/-- A zero coefficient, or one far below its exponent, reads as zero. -/
theorem nearest?_eq_zero_of_small {c j k n : Nat} (hjk : k ≠ 0 → j = 0)
    (h : c = 0 ∨ c.log2 + 1 + (n + 1) ≤ 3 * k) :
    Magnitude.nearest? (c * 10 ^ j * 2 ^ n) (10 ^ k) = some .zero := by
  refine Magnitude.nearest?_eq_zero ?_
  rcases h with h | h
  · subst h
    simp only [Nat.zero_mul, Nat.mul_zero]
    exact Nat.pow_pos (by decide)
  · have hj : j = 0 := hjk (by omega)
    subst hj
    rw [Nat.pow_zero, Nat.mul_one, two_mul_mul_two_pow]
    refine Nat.lt_of_lt_of_le ?_ (eight_pow_le_ten_pow k)
    refine Nat.lt_of_lt_of_le ?_ (Nat.pow_le_pow_right (by decide) h)
    rw [Nat.pow_add 2 (c.log2 + 1)]
    exact Nat.mul_lt_mul_of_pos_right Nat.lt_log2_self (Nat.two_pow_pos _)

/-- A coefficient other than zero with a large exponent is infinite. -/
theorem nearest?_eq_none_of_large {c j k : Nat} (hjk : k ≠ 0 → j = 0) (hc : c ≠ 0)
    (h : 1024 ≤ 3 * j) :
    Magnitude.nearest? (c * 10 ^ j * Magnitude.one) (10 ^ k) = none := by
  have hk : k = 0 := by
    by_cases hk : k = 0
    · exact hk
    · have := hjk hk
      omega
  subst hk
  refine Magnitude.nearest?_eq_none h ?_
  rw [Nat.pow_zero, Nat.div_one, Nat.pow_add]
  refine Nat.mul_le_mul ?_ (Nat.le_refl _)
  exact Nat.le_trans (eight_pow_le_ten_pow j) (Nat.le_mul_of_pos_left _ (by omega))

/-- Reading a decimal is one rounding of its exact quotient. -/
theorem toBinary64_eq (d : Decimal) :
    d.toBinary64 = .ofQuotient d.negative d.quotient.1 d.quotient.2 := by
  have hsign : (-d.exponent).toNat ≠ 0 → d.exponent.toNat = 0 := by omega
  unfold toBinary64
  split
  · rename_i hsmall
    have hzero := nearest?_eq_zero_of_small hsign hsmall
    exact (Binary64.ofQuotient_of_some d.negative hzero).symm
  · rename_i hsmall
    split
    · rename_i hlarge
      have hnone := nearest?_eq_none_of_large hsign (fun h => hsmall (.inl h)) hlarge
      exact (Binary64.ofQuotient_of_none d.negative hnone).symm
    · rfl

end Decimal

namespace Magnitude

/-- The exact expansion of a magnitude denotes its units. -/
theorem quotient_expansion (m : Magnitude) :
    m.expansion.quotient = (m.units * 10 ^ places, 1 * 10 ^ places) := by
  have hten : m.decimalUnits * one = m.units * 10 ^ places := by
    rw [decimalUnits, one, Nat.mul_assoc, ← Nat.mul_pow]
  simp [Decimal.quotient, expansion, hten]

/-- The exact expansion of a magnitude reads back. -/
theorem toBinary64_expansion (m : Magnitude) :
    m.expansion.toBinary64 = .finite false m := by
  have hround := Binary64.ofQuotient_mul_right false m.units 1
    (show 0 < 10 ^ places from Nat.pow_pos (by decide))
  rw [Decimal.toBinary64_eq, quotient_expansion]
  exact hround.trans (Binary64.ofQuotient_units false m)

/-- A decimal that is cut short has been tried. -/
theorem toBinary64_of_cutAt? {m : Magnitude} {dropped : Nat} {d : Decimal}
    (h : m.cutAt? dropped = some d) : d.toBinary64 = .finite false m := by
  have htried := List.find?_some h
  exact of_decide_eq_true htried

/-- The shortest decimal reads back. -/
theorem toBinary64_shortest (m : Magnitude) : m.shortest.toBinary64 = .finite false m := by
  unfold shortest
  cases hfind : (List.range (decimalLength m.decimalUnits)).reverse.findSome? m.cutAt? with
  | none =>
      rw [Option.getD_none]
      exact toBinary64_expansion m
  | some d =>
      obtain ⟨dropped, _, hcut⟩ := List.exists_of_findSome?_eq_some hfind
      rw [Option.getD_some]
      exact toBinary64_of_cutAt? hcut

end Magnitude

end PostfixCalc
