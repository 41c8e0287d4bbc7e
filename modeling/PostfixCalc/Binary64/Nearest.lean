import PostfixCalc.Binary64.Rounding

/-!
# Rounding and exact numbers

Rounding takes a quotient at most half a step away.  It depends on the quotient
alone and not on the terms it is written in, and it keeps every number that is
exact.  So a magnitude is known by its number of units.
-/

namespace PostfixCalc

-- Powers of whole numbers are those of the core library.
attribute [local instance (high)] instPowNat

/-- The nearest whole number is at most a half away. -/
theorem roundQuotient_near (n : Nat) {d : Nat} (hd : 0 < d) :
    2 * n ≤ (2 * roundQuotient n d + 1) * d ∧ 2 * roundQuotient n d * d ≤ 2 * n + d := by
  have hsplit := Nat.div_add_mod n d
  have hlt := Nat.mod_lt n hd
  rw [Nat.mul_comm] at hsplit
  unfold roundQuotient
  dsimp only
  generalize n / d = q at hsplit ⊢
  split
  · have hnear : 2 * (n % d) ≤ d := by omega
    rw [Nat.add_mul, Nat.one_mul, Nat.mul_assoc]
    omega
  · have hfar : d ≤ 2 * (n % d) := by omega
    rw [Nat.add_mul, Nat.one_mul, Nat.mul_assoc, Nat.add_mul, Nat.one_mul]
    omega

/-- A whole quotient is its own nearest whole number. -/
theorem roundQuotient_mul_self (n : Nat) {d : Nat} (hd : 0 < d) :
    roundQuotient (n * d) d = n := by
  simp [roundQuotient, Nat.mul_div_cancel _ hd, hd]

/-- A common factor of both terms does not matter. -/
theorem roundQuotient_mul_right (n d : Nat) {k : Nat} (hk : 0 < k) :
    roundQuotient (n * k) (d * k) = roundQuotient n d := by
  have hlt : 2 * (n % d * k) < d * k ↔ 2 * (n % d) < d := by
    rw [← Nat.mul_assoc, Nat.mul_lt_mul_right hk]
  have heq : 2 * (n % d * k) = d * k ↔ 2 * (n % d) = d := by
    rw [← Nat.mul_assoc, Nat.mul_left_inj (by omega)]
  simp only [roundQuotient, Nat.mul_div_mul_right _ _ hk, Nat.mul_mod_mul_right, hlt, heq]

namespace Magnitude

theorem scaleFor_mul_right (n d : Nat) {k : Nat} (hk : 0 < k) :
    scaleFor (n * k) (d * k) = scaleFor n d := by
  simp [scaleFor, Nat.mul_div_mul_right _ _ hk]

theorem significandFor_mul_right (n d : Nat) {k : Nat} (hk : 0 < k) :
    significandFor (n * k) (d * k) = significandFor n d := by
  unfold significandFor
  rw [scaleFor_mul_right n d hk, Nat.mul_right_comm, roundQuotient_mul_right _ _ hk]

/-- The nearest magnitude depends on the quotient only. -/
theorem nearest?_mul_right (n d : Nat) {k : Nat} (hk : 0 < k) :
    nearest? (n * k) (d * k) = nearest? n d := by
  unfold nearest?
  rw [significandFor_mul_right n d hk, scaleFor_mul_right n d hk]

/-- The scale of a magnitude is the one that rounding finds for its units. -/
theorem scaleFor_units (m : Magnitude) : scaleFor m.units 1 = m.scale := by
  obtain ⟨s, k, hs, hk, hn⟩ := m
  simp only [scaleFor, units, Nat.div_one]
  by_cases hfull : 2 ^ (52 : Nat) ≤ s
  · have hne : s * 2 ^ k ≠ 0 := by
      have : 0 < s * 2 ^ k := Nat.mul_pos (by omega) (Nat.two_pow_pos k)
      omega
    have hlog : (s * 2 ^ k).log2 = 52 + k := by
      refine (Nat.log2_eq_iff hne).2 ⟨?_, ?_⟩
      · rw [Nat.pow_add]
        exact Nat.mul_le_mul_right _ hfull
      · rw [show 52 + k + 1 = 53 + k by omega, Nat.pow_add]
        exact Nat.mul_lt_mul_of_pos_right hs (Nat.two_pow_pos k)
    omega
  · have hk0 : k = 0 := by
      rcases hn with hn | hn
      · exact hn
      · exact absurd hn hfull
    subst hk0
    by_cases hs0 : s = 0
    · subst hs0
      decide
    · have hlog : s.log2 < 52 := (Nat.log2_lt hs0).2 (by omega)
      simp only [Nat.pow_zero, Nat.mul_one]
      omega

/-- A magnitude is the nearest one to its own units. -/
theorem nearest?_units (m : Magnitude) : nearest? m.units 1 = some m := by
  have hscale := scaleFor_units m
  have hsig : significandFor m.units 1 = m.significand := by
    unfold significandFor
    rw [hscale, Nat.one_mul]
    exact roundQuotient_mul_self _ (Nat.two_pow_pos _)
  have hcarry : m.significand ≠ 2 ^ (53 : Nat) := Nat.ne_of_lt m.significand_lt
  unfold nearest?
  rw [hsig, hscale, if_neg hcarry]
  exact ofParts?_eq_some m

/-- A magnitude is known by its units. -/
theorem units_injective {m n : Magnitude} (h : m.units = n.units) : m = n := by
  have hm := nearest?_units m
  rw [h, nearest?_units n] at hm
  exact (Option.some.inj hm).symm

end Magnitude

namespace Binary64

/-- The number of a quotient depends on the quotient only. -/
theorem ofQuotient_mul_right (negative : Bool) (n d : Nat) {k : Nat} (hk : 0 < k) :
    ofQuotient negative (n * k) (d * k) = ofQuotient negative n d := by
  unfold ofQuotient
  rw [Magnitude.nearest?_mul_right n d hk]

theorem ofQuotient_of_some {n d : Nat} {m : Magnitude} (negative : Bool)
    (h : Magnitude.nearest? n d = some m) : ofQuotient negative n d = .finite negative m := by
  unfold ofQuotient
  rw [h]

theorem ofQuotient_of_none {n d : Nat} (negative : Bool)
    (h : Magnitude.nearest? n d = none) : ofQuotient negative n d = .infinity negative := by
  unfold ofQuotient
  rw [h]

/-- Rounding keeps every finite number. -/
theorem ofQuotient_units (negative : Bool) (m : Magnitude) :
    ofQuotient negative m.units 1 = .finite negative m :=
  ofQuotient_of_some negative m.nearest?_units

end Binary64

end PostfixCalc
