import PostfixCalc.Binary64.Nearest

/-!
# Where rounding overflows

The greatest magnitude is `(2 ^ 53 - 1) * 2 ^ 971`, and the next step of that size
would lead to `2 ^ 1024`.  Halfway between the two, at `(2 ^ 54 - 1) * 2 ^ 970`, a
quotient goes to the even neighbour, which there is no magnitude for.  So a quotient
has no nearest magnitude exactly from this limit on (`nearest?_eq_none_iff`).
-/

namespace PostfixCalc

-- Powers of whole numbers are those of the core library.
attribute [local instance (high)] instPowNat

/-- Rounding goes beyond an odd number exactly from halfway to the next one on. -/
theorem lt_roundQuotient_iff_of_odd {n d k : Nat} (hd : 0 < d) (hk : k % 2 = 1) :
    k < roundQuotient n d ↔ (2 * k + 1) * d ≤ 2 * n := by
  rw [Nat.add_mul, Nat.one_mul, Nat.mul_assoc]
  constructor
  · intro h
    have hnear := (roundQuotient_near n hd).2
    have hmul : (k + 1) * d ≤ roundQuotient n d * d := Nat.mul_le_mul_right d h
    rw [Nat.mul_assoc] at hnear
    rw [Nat.add_mul, Nat.one_mul] at hmul
    omega
  · intro h
    have hle : k ≤ n / d := (Nat.le_div_iff_mul_le hd).2 (by omega)
    rcases Nat.lt_or_eq_of_le hle with hlt | heq
    · exact Nat.lt_of_lt_of_le hlt (div_le_roundQuotient n d)
    · -- The remainder is at least half of the divisor, and a half goes up.
      have hsplit := Nat.div_add_mod n d
      rw [Nat.mul_comm, ← heq] at hsplit
      simp only [roundQuotient, ← heq]
      split <;> omega

namespace Magnitude

theorem ofParts?_eq_none_iff {significand scale : Nat} (hlt : significand < 2 ^ (53 : Nat))
    (hfull : scale = 0 ∨ 2 ^ (52 : Nat) ≤ significand) :
    ofParts? significand scale = none ↔ 2045 < scale := by
  unfold ofParts?
  split
  · simp only [reduceCtorEq, false_iff]
    omega
  · simp only [true_iff]
    omega

/-- Either the scale is out of reach, or the significand is carried beyond the last
scale. -/
theorem nearest?_eq_none_iff_scale {n d : Nat} :
    nearest? n d = none ↔
      2045 < scaleFor n d ∨ scaleFor n d = 2045 ∧ significandFor n d = 2 ^ (53 : Nat) := by
  have hle := significandFor_le n d
  have hfull := scaleFor_eq_or_le n d
  unfold nearest?
  split
  · rename_i hcarry
    rw [ofParts?_eq_none_iff (by decide) (.inr (Nat.le_refl _))]
    omega
  · rename_i hcarry
    rw [ofParts?_eq_none_iff (by omega) hfull]
    omega

theorem lt_scaleFor_iff {n d k : Nat} (hd : 0 < d) :
    k < scaleFor n d ↔ 2 ^ (53 + k) * d ≤ n := by
  rw [← Nat.le_div_iff_mul_le hd]
  by_cases hzero : n / d = 0
  · have hpos := Nat.two_pow_pos (53 + k)
    rw [scaleFor, hzero]
    exact iff_of_false (by simp) (by omega)
  · rw [← Nat.le_log2 hzero, scaleFor]
    omega

theorem significandFor_eq_iff {n d : Nat} (hd : 0 < d) :
    significandFor n d = 2 ^ (53 : Nat) ↔
      (2 ^ (54 : Nat) - 1) * (d * 2 ^ scaleFor n d) ≤ 2 * n := by
  have hle := significandFor_le n d
  have hstep : 0 < d * 2 ^ scaleFor n d := Nat.mul_pos hd (Nat.two_pow_pos _)
  have hcarry := lt_roundQuotient_iff_of_odd (n := n) (k := 2 ^ (53 : Nat) - 1) hstep (by decide)
  rw [← significandFor] at hcarry
  rw [show 2 ^ (54 : Nat) - 1 = 2 * (2 ^ (53 : Nat) - 1) + 1 by decide, ← hcarry]
  omega

/-- The number halfway between the greatest magnitude and `2 ^ 1024`. -/
@[irreducible]
def limit : Nat :=
  (2 ^ (54 : Nat) - 1) * 2 ^ (970 : Nat)

theorem limit_eq : limit = (2 ^ (54 : Nat) - 1) * 2 ^ (970 : Nat) := by
  unfold limit
  rfl

theorem limit_mul_one (d : Nat) :
    limit * one * d = (2 ^ (54 : Nat) - 1) * (2 ^ (970 + places) * d) := by
  rw [limit_eq, one, Nat.pow_add 2 970 places]
  simp only [Nat.mul_assoc]

/-- There is no nearest magnitude from the limit on. -/
theorem nearest?_eq_none_iff {n d : Nat} (hd : 0 < d) :
    nearest? n d = none ↔ limit * one * d ≤ n := by
  -- The last scale, by the places below one.
  have hplaces := places_eq
  have hlast : 2045 = 970 + places + 1 := by omega
  have hscale := lt_scaleFor_iff (n := n) (k := 970 + places) hd
  have hscale' := lt_scaleFor_iff (n := n) (k := 970 + places + 1) hd
  have hstep : d * 2 ^ (970 + places + 1) = 2 * (2 ^ (970 + places) * d) := by
    rw [Nat.pow_succ, Nat.mul_comm d, Nat.mul_comm _ 2, Nat.mul_assoc]
  rw [Nat.pow_add, Nat.mul_assoc] at hscale
  rw [show 53 + (970 + places + 1) = 54 + (970 + places) by omega, Nat.pow_add,
    Nat.mul_assoc] at hscale'
  rw [nearest?_eq_none_iff_scale, significandFor_eq_iff hd, hlast, hscale', limit_mul_one]
  generalize 2 ^ (970 + places) * d = step at *
  constructor
  · rintro (h | ⟨hs, h⟩)
    · omega
    · rw [hs, hstep] at h
      omega
  · intro h
    by_cases hbelow : 970 + places + 1 < scaleFor n d
    · exact .inl (hscale'.1 hbelow)
    · -- The scale is the last one, at which the significand is carried.
      have hreached : 970 + places < scaleFor n d := hscale.2 (by omega)
      have hs : scaleFor n d = 970 + places + 1 := by omega
      refine .inr ⟨hs, ?_⟩
      rw [hs, hstep]
      omega

end Magnitude

namespace Binary64

theorem ofQuotient_isFinite_iff (negative : Bool) {n d : Nat} (hd : 0 < d) :
    (ofQuotient negative n d).isFinite = true ↔ n < Magnitude.limit * Magnitude.one * d := by
  rw [← Nat.not_le, ← Magnitude.nearest?_eq_none_iff hd]
  cases h : Magnitude.nearest? n d with
  | none => simp [ofQuotient_of_none negative h, isFinite]
  | some m => simp [ofQuotient_of_some negative h, isFinite]

end Binary64

end PostfixCalc
