import PostfixCalc.Decimal.Notation
import PostfixCalc.Decimal.Reading
import PostfixCalc.Proofs.Decimal.Grammar

/-!
# What a written number denotes

The digits of a whole number denote it (`numeral_toDigits`), and digits that are laid out
around a point or with an exponent denote what the place of their point says
(`unsigned_layout`).  So the text of a magnitude other than zero is a literal, without a
sign, of its shortest decimal (`unsigned_text`): the zeros at the end, which are left out,
are made up for by the place of the point.
-/

namespace PostfixCalc

-- Powers of whole numbers are those of the core library.
attribute [local instance (high)] instPowNat

namespace Decimal

/-- The text is a literal without a sign. -/
inductive Unsigned : List Char → ℚ → Prop
  | literal {significand exponent : List Char} {x : ℚ} {k : ℤ}
      (hsignificand : Significand significand x) (hexponent : Exponent exponent k) :
      Unsigned (significand ++ exponent) (x * 10 ^ k)

variable {text digits : List Char} {x : ℚ}

theorem Unsigned.denotes {sign : List Char} {negative : Bool} (h : Unsigned text x)
    (hsign : Sign sign negative) : Denotes (sign ++ text) ((if negative then -1 else 1) * x) := by
  obtain ⟨hsignificand, hexponent⟩ := h
  rw [← mul_assoc]
  exact .literal hsign hsignificand hexponent

/-! ## Digits -/

theorem numeral_toDigits (n : ℕ) : numeral (Nat.toDigits 10 n) = n := by
  rw [← digitsValue_eq]
  exact Nat.ofDigitChars_ten_toDigits

theorem isDigits_toDigits (n : ℕ) : IsDigits (Nat.toDigits 10 n) :=
  ⟨Nat.toDigits_ne_nil, fun _ hc => Nat.isDigit_of_mem_toDigits (by decide) (by decide) hc⟩

theorem numeral_zeros (n : ℕ) : numeral (List.replicate n '0') = 0 := by
  rw [← digitsValue_eq]
  exact Nat.ofDigitChars_replicate_zero

theorem isDigit_of_mem_zeros {n : ℕ} {c : Char} (hc : c ∈ List.replicate n '0') :
    c.isDigit = true := by
  rw [List.eq_of_mem_replicate hc]
  rfl

theorem numeral_append_zeros (digits : List Char) (n : ℕ) :
    numeral (digits ++ List.replicate n '0') = 10 ^ n * numeral digits := by
  rw [numeral_append, numeral_zeros, List.length_replicate, Nat.zero_add]

theorem numeral_zeros_append (n : ℕ) (digits : List Char) :
    numeral (List.replicate n '0' ++ digits) = numeral digits := by
  rw [numeral_append, numeral_zeros, Nat.mul_zero, Nat.add_zero]

theorem IsDigits.append (h : IsDigits digits) (htext : ∀ c ∈ text, c.isDigit = true) :
    IsDigits (digits ++ text) :=
  ⟨by simp [h.1], List.forall_mem_append.2 ⟨h.2, htext⟩⟩

/-- Zeros alone are left out at the end. -/
theorem exists_trimZeros (digits : List Char) :
    ∃ n, digits = trimZeros digits ++ List.replicate n '0' := by
  have hzeros : ∀ c ∈ digits.rtakeWhile (· == '0'), c = '0' := by
    intro c hc
    simpa using List.mem_rtakeWhile_imp hc
  have hsplit : trimZeros digits ++ digits.rtakeWhile (· == '0') = digits :=
    List.rdropWhile_append_rtakeWhile
  rw [List.eq_replicate_of_mem hzeros] at hsplit
  exact ⟨_, hsplit.symm⟩

/-! ## Exponents -/

/-- The digits of an exponent, two at least. -/
theorem padded_toDigits (n : ℕ) :
    let digits := Nat.toDigits 10 n
    let padded := if digits.length < 2 then '0' :: digits else digits
    IsDigits padded ∧ numeral padded = n := by
  have hdigits := isDigits_toDigits n
  intro digits padded
  by_cases hshort : digits.length < 2
  · have hpadded : padded = List.replicate 1 '0' ++ digits := if_pos hshort
    rw [hpadded, numeral_zeros_append]
    refine ⟨⟨by simp, ?_⟩, numeral_toDigits n⟩
    simpa using hdigits.2
  · have hpadded : padded = digits := if_neg hshort
    rw [hpadded]
    exact ⟨hdigits, numeral_toDigits n⟩

theorem exponent_exponentText (k : ℤ) : Exponent ('e' :: exponentText k) k := by
  obtain ⟨hpadded, hnumeral⟩ := padded_toDigits k.natAbs
  by_cases hk : k < 0
  · have hexponent := Exponent.some (.inl rfl) .minus hpadded
    rw [hnumeral, if_pos rfl, Int.ofNat_natAbs_of_nonpos hk.le, neg_neg] at hexponent
    simpa only [exponentText, if_pos hk, List.singleton_append] using hexponent
  · have hexponent := Exponent.some (.inl rfl) .plus hpadded
    rw [hnumeral, if_neg Bool.false_ne_true, Int.natAbs_of_nonneg (not_lt.1 hk)] at hexponent
    simpa only [exponentText, if_neg hk, List.singleton_append] using hexponent

/-! ## Layouts -/

theorem Significand.unsigned (h : Significand text x) : Unsigned text x := by
  have hliteral := Unsigned.literal h .none
  simpa using hliteral

theorem div_pow_eq_mul_zpow (x : ℚ) (places : ℕ) : x / 10 ^ places = x * 10 ^ (-places : ℤ) := by
  rw [zpow_neg, zpow_natCast, div_eq_mul_inv]

/-- A point after some of the digits counts the others as its places. -/
theorem significand_of_append {whole fraction : List Char} (hwhole : IsDigits whole)
    (hfraction : ∀ c ∈ fraction, c.isDigit = true) :
    Significand (whole ++ '.' :: fraction)
      (numeral (whole ++ fraction) * 10 ^ (-fraction.length : ℤ)) := by
  rw [← div_pow_eq_mul_zpow, ← digitsValue_eq, digitsValue_append_div]
  exact .pointed hwhole hfraction

/-- Zeros at the end of the digits are made up for by the place of the point. -/
theorem numeral_append_zeros_mul (digits : List Char) (n : ℕ) (k : ℤ) :
    (numeral (digits ++ List.replicate n '0') : ℚ) * 10 ^ k = numeral digits * 10 ^ (k + n) := by
  rw [numeral_append_zeros, zpow_add₀ (by norm_num), zpow_natCast]
  push_cast
  ring

/-- Zeros stand between the point and the digits. -/
theorem unsigned_zeros_before (h : IsDigits digits) (zeros : ℕ) :
    Unsigned ('0' :: '.' :: (List.replicate zeros '0' ++ digits))
      (numeral digits * 10 ^ (-zeros - digits.length : ℤ)) := by
  have hfraction : ∀ c ∈ List.replicate zeros '0' ++ digits, c.isDigit = true :=
    List.forall_mem_append.2 ⟨fun c hc => isDigit_of_mem_zeros hc, h.2⟩
  have hzero : IsDigits ['0'] := ⟨by simp, by simp⟩
  have hsignificand := significand_of_append hzero hfraction
  have hvalue : numeral (['0'] ++ (List.replicate zeros '0' ++ digits)) = numeral digits :=
    numeral_zeros_append (zeros + 1) digits
  have hplaces : -((List.replicate zeros '0' ++ digits).length : ℤ) = -zeros - digits.length := by
    rw [List.length_append, List.length_replicate]
    omega
  rw [hvalue, hplaces] at hsignificand
  exact hsignificand.unsigned

/-- Zeros stand between the digits and the point, and one after it. -/
theorem unsigned_zeros_after (h : IsDigits digits) (zeros : ℕ) :
    Unsigned (digits ++ List.replicate zeros '0' ++ '.' :: ['0'])
      (numeral digits * 10 ^ (zeros : ℤ)) := by
  have hwhole := h.append fun c (hc : c ∈ List.replicate zeros '0') => isDigit_of_mem_zeros hc
  have hzero : ∀ c ∈ ['0'], c.isDigit = true := by simp
  have hsignificand := significand_of_append hwhole hzero
  have hzeros : digits ++ List.replicate zeros '0' ++ ['0'] =
      digits ++ List.replicate (zeros + 1) '0' := by
    rw [List.append_assoc, List.replicate_succ']
  have hplaces : -(['0'].length : ℤ) + (zeros + 1 : ℕ) = zeros := by
    simp
  rw [hzeros, numeral_append_zeros_mul, hplaces] at hsignificand
  exact hsignificand.unsigned

/-- The point stands among the digits. -/
theorem unsigned_take (h : IsDigits digits) {places : ℕ} (hpos : 0 < places)
    (hplaces : places ≤ digits.length) :
    Unsigned (digits.take places ++ '.' :: digits.drop places)
      (numeral digits * 10 ^ (places - digits.length : ℤ)) := by
  have hwhole : IsDigits (digits.take places) :=
    ⟨by simp [h.1]; omega, fun c hc => h.2 c (List.mem_of_mem_take hc)⟩
  have hfraction : ∀ c ∈ digits.drop places, c.isDigit = true :=
    fun c hc => h.2 c (List.mem_of_mem_drop hc)
  have hsignificand := significand_of_append hwhole hfraction
  have hlength : -((digits.drop places).length : ℤ) = places - digits.length := by
    rw [List.length_drop]
    omega
  rw [List.take_append_drop, hlength] at hsignificand
  exact hsignificand.unsigned

/-- Digits around a point denote what its place says. -/
theorem unsigned_positional (h : IsDigits digits) (point : ℤ) :
    Unsigned (positional digits point) (numeral digits * 10 ^ (point - digits.length)) := by
  by_cases hpoint : point ≤ 0
  · obtain ⟨zeros, rfl⟩ := Int.exists_eq_neg_ofNat hpoint
    rw [positional, if_pos hpoint]
    simpa using unsigned_zeros_before h zeros
  · obtain ⟨places, rfl⟩ := Int.eq_ofNat_of_zero_le (not_le.1 hpoint).le
    rw [positional, if_neg hpoint]
    by_cases hlong : digits.length ≤ places
    · have hunsigned := unsigned_zeros_after h (places - digits.length)
      rw [Nat.cast_sub hlong] at hunsigned
      simpa [List.take_of_length_le hlong, List.drop_of_length_le hlong] using hunsigned
    · have hfraction : digits.drop places ≠ [] := by
        simpa using hlong
      have hzeros : places - digits.length = 0 := by omega
      simpa [hfraction, hzeros] using unsigned_take h (by omega) (le_of_not_ge hlong)

/-- Digits with the point after the first one, and an exponent. -/
theorem unsigned_scientific (h : IsDigits digits) (exponent : ℤ) :
    Unsigned (scientific digits exponent)
      (numeral digits * 10 ^ (exponent + 1 - digits.length)) := by
  have hvalue : (numeral digits : ℚ) * 10 ^ (exponent + 1 - digits.length) =
      numeral digits * 10 ^ (-(digits.drop 1).length : ℤ) * 10 ^ exponent := by
    have hlength : 0 < digits.length := List.length_pos_iff.2 h.1
    rw [mul_assoc, ← zpow_add₀ (by norm_num), List.length_drop]
    congr 2
    omega
  rw [hvalue]
  refine .literal ?_ (exponent_exponentText exponent)
  obtain ⟨d, rest, rfl⟩ := List.exists_cons_of_ne_nil h.1
  cases rest with
  | nil => simpa using Significand.whole h
  | cons d' rest =>
      have hfirst : IsDigits [d] := ⟨by simp, by simpa using h.2 d (by simp)⟩
      exact significand_of_append hfirst fun c hc => h.2 c (List.mem_cons_of_mem d hc)

/-- Either form has the point after as many of the digits. -/
theorem unsigned_layout (h : IsDigits digits) (point : ℤ) :
    Unsigned (layout digits point) (numeral digits * 10 ^ (point - digits.length)) := by
  unfold layout
  split
  · exact unsigned_positional h point
  · simpa using unsigned_scientific h (point - 1)

/-- Digits other than zeros lose nothing by leaving out the zeros at their end, as long as
the point stays where it is. -/
theorem unsigned_trimZeros (h : IsDigits digits) (hne : numeral digits ≠ 0) (k : ℤ) :
    Unsigned (layout (trimZeros digits) (digits.length + k)) (numeral digits * 10 ^ k) := by
  obtain ⟨zeros, hzeros⟩ := exists_trimZeros digits
  have htrimmed : IsDigits (trimZeros digits) := by
    refine ⟨fun hnone => hne ?_, fun c hc => h.2 c ?_⟩
    · rw [hzeros, hnone, List.nil_append, numeral_zeros]
    · rw [hzeros]
      exact List.mem_append_left _ hc
  have hvalue : (numeral digits : ℚ) * 10 ^ k = numeral (trimZeros digits) * 10 ^ (k + zeros) := by
    rw [← numeral_append_zeros_mul, ← hzeros]
  have hlength : (digits.length : ℤ) = (trimZeros digits).length + zeros := by
    conv_lhs => rw [hzeros]
    simp
  have hexponent : digits.length + k - (trimZeros digits).length = k + zeros := by
    omega
  rw [hvalue, ← hexponent]
  exact unsigned_layout htrimmed (digits.length + k)

/-- A zero coefficient reads as zero, whatever the exponent. -/
theorem toBinary64_of_coefficient_eq_zero {d : Decimal} (h : d.coefficient = 0) :
    d.toBinary64 = .zero d.negative := by
  rw [toBinary64, if_pos (.inl h)]

theorem coefficient_ne_zero {d : Decimal} {sign : Bool} {m : Magnitude}
    (hd : d.toBinary64 = .finite sign m) (hm : m.units ≠ 0) : d.coefficient ≠ 0 := by
  intro hzero
  rw [toBinary64_of_coefficient_eq_zero hzero, Binary64.zero, Binary64.finite.injEq] at hd
  exact hm ((Magnitude.units_eq_zero_iff m).2 hd.2.symm)

end Decimal

namespace Magnitude

/-- The text of a magnitude denotes its shortest decimal. -/
theorem unsigned_text {m : Magnitude} (h : m.units ≠ 0) :
    Decimal.Unsigned m.text (m.shortest.coefficient * 10 ^ m.shortest.exponent) := by
  have hnumeral := Decimal.numeral_toDigits m.shortest.coefficient
  have hne := Decimal.coefficient_ne_zero m.toBinary64_shortest h
  rw [← hnumeral] at hne
  have hunsigned := Decimal.unsigned_trimZeros (Decimal.isDigits_toDigits m.shortest.coefficient)
    hne m.shortest.exponent
  rw [hnumeral] at hunsigned
  rwa [text, if_neg h]

end Magnitude

end PostfixCalc
