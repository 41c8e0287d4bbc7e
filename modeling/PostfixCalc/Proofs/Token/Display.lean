import PostfixCalc.Proofs.Decimal.Layout
import PostfixCalc.Proofs.Token.Kind
import PostfixCalc.Proofs.Token.Number

/-!
# Displayed numbers read back

What a literal other than zero reads as depends on the number that it denotes alone, and
not on how it is written (`number?_of_denotes`).  So the exact text of a finite number,
and its text for display with or without a point, are read as the number itself, but for
the sign of zero, which is not displayed.
-/

namespace PostfixCalc

-- Powers of whole numbers are those of the core library.
attribute [local instance (high)] instPowNat

namespace Decimal

variable {d e : Decimal}

theorem toRat_neg_iff (hd : d.coefficient ≠ 0) : d.toRat < 0 ↔ d.negative = true := by
  have hpos : (0 : ℚ) < d.coefficient * 10 ^ d.exponent := by positivity
  rw [toRat, mul_assoc]
  cases d.negative with
  | false => simpa using hpos.le
  | true => simpa using hpos

theorem coefficient_eq_zero_iff (d : Decimal) : d.coefficient = 0 ↔ d.toRat = 0 := by
  have hpower : (10 : ℚ) ^ d.exponent ≠ 0 := zpow_ne_zero _ (by norm_num)
  rw [← abs_eq_zero, abs_toRat, mul_eq_zero, or_iff_left hpower, Nat.cast_eq_zero]

/-- Equal numbers have exact quotients that are equal across. -/
theorem quotient_cross (h : |d.toRat| = |e.toRat|) :
    d.quotient.1 * e.quotient.2 = e.quotient.1 * d.quotient.2 := by
  have hterms : d.coefficient * 10 ^ d.exponent.toNat * 10 ^ (-e.exponent).toNat =
      e.coefficient * 10 ^ e.exponent.toNat * 10 ^ (-d.exponent).toNat := by
    rw [abs_toRat, abs_toRat] at h
    rw [← @Nat.cast_inj ℚ]
    push_cast
    rw [cast_mul_ten_pow, cast_mul_ten_pow, h]
    ring
  show d.coefficient * 10 ^ d.exponent.toNat * Magnitude.one * 10 ^ (-e.exponent).toNat =
    e.coefficient * 10 ^ e.exponent.toNat * Magnitude.one * 10 ^ (-d.exponent).toNat
  rw [Nat.mul_right_comm, hterms, Nat.mul_right_comm]

theorem quotient_pos (d : Decimal) : 0 < d.quotient.2 :=
  Nat.pow_pos (by decide)

/-- Decimals of one number other than zero read alike. -/
theorem toBinary64_congr (h : d.toRat = e.toRat) (hd : d.coefficient ≠ 0) :
    d.toBinary64 = e.toBinary64 := by
  have he : e.coefficient ≠ 0 := by
    rwa [ne_eq, coefficient_eq_zero_iff, ← h, ← coefficient_eq_zero_iff]
  have hsign : d.negative = e.negative := by
    rw [Bool.eq_iff_iff, ← toRat_neg_iff hd, ← toRat_neg_iff he, h]
  have hcross := quotient_cross (congrArg abs h)
  rw [toBinary64_eq, toBinary64_eq, hsign]
  calc Binary64.ofQuotient e.negative d.quotient.1 d.quotient.2
      = .ofQuotient e.negative (d.quotient.1 * e.quotient.2) (d.quotient.2 * e.quotient.2) :=
        (Binary64.ofQuotient_mul_right _ _ _ e.quotient_pos).symm
    _ = .ofQuotient e.negative (e.quotient.1 * d.quotient.2) (e.quotient.2 * d.quotient.2) := by
        rw [hcross, Nat.mul_comm d.quotient.2]
    _ = .ofQuotient e.negative e.quotient.1 e.quotient.2 :=
        Binary64.ofQuotient_mul_right _ _ _ d.quotient_pos

/-- The sign of a decimal goes before its digits. -/
theorem Unsigned.denotes_toRat {text : List Char}
    (h : Unsigned text (d.coefficient * 10 ^ d.exponent)) (sign : Bool) :
    Denotes ((if sign then ['-'] else []) ++ text) { d with negative := sign }.toRat := by
  rw [toRat, mul_assoc]
  cases sign with
  | false => exact h.denotes .none
  | true => exact h.denotes .minus

/-- Another sign of a decimal is another sign of its number. -/
theorem toBinary64_signed {negative : Bool} {m : Magnitude}
    (h : d.toBinary64 = .finite negative m) (sign : Bool) :
    { d with negative := sign }.toBinary64 = .finite sign m := by
  rw [toBinary64_eq] at h ⊢
  cases hnearest : Magnitude.nearest? d.quotient.1 d.quotient.2 with
  | none =>
      rw [Binary64.ofQuotient_of_none _ hnearest] at h
      contradiction
  | some n =>
      rw [Binary64.ofQuotient_of_some _ hnearest, Binary64.finite.injEq] at h
      obtain ⟨-, rfl⟩ := h
      exact Binary64.ofQuotient_of_some sign hnearest

end Decimal

namespace Binary64

variable {x y : Binary64}

/-- The number as it is displayed: a zero has no sign there. -/
def displayed (x : Binary64) : Binary64 :=
  if x = zero true then zero false else x

theorem displayed_zero (negative : Bool) : (zero negative).displayed = zero false := by
  cases negative <;> rfl

theorem displayed_finite {negative : Bool} {m : Magnitude} (hm : m.units ≠ 0) :
    (finite negative m).displayed = finite negative m := by
  refine if_neg fun hzero => ?_
  rw [zero, finite.injEq] at hzero
  exact hm ((Magnitude.units_eq_zero_iff m).2 hzero.2)

theorem eq_zero_or_units_ne_zero (hx : x.isFinite = true) :
    (∃ negative, x = zero negative) ∨ ∃ negative m, x = finite negative m ∧ m.units ≠ 0 := by
  cases x with
  | nan => contradiction
  | infinity negative => contradiction
  | finite negative m =>
      by_cases hm : m.units = 0
      · obtain rfl := (Magnitude.units_eq_zero_iff m).1 hm
        exact .inl ⟨negative, rfl⟩
      · exact .inr ⟨negative, m, rfl, hm⟩

/-- Finite numbers are numerically equal if and only if they are displayed as one. -/
theorem numEq_iff_displayed (hx : x.isFinite = true) (hy : y.isFinite = true) :
    x.numEq y = true ↔ x.displayed = y.displayed := by
  have hne {m : Magnitude} (hm : m.units ≠ 0) : m ≠ .zero := fun hzero =>
    hm ((Magnitude.units_eq_zero_iff m).2 hzero)
  rcases eq_zero_or_units_ne_zero hx with ⟨s, rfl⟩ | ⟨s, m, rfl, hm⟩ <;>
    rcases eq_zero_or_units_ne_zero hy with ⟨t, rfl⟩ | ⟨t, n, rfl, hn⟩
  · rw [displayed_zero, displayed_zero]
    simp [zero, numEq]
  · rw [displayed_zero, displayed_finite hn]
    simp [zero, numEq, (hne hn).symm]
  · rw [displayed_zero, displayed_finite hm]
    simp [zero, numEq, hne hm]
  · rw [displayed_finite hm, displayed_finite hn]
    simp [numEq, hm, and_comm]

end Binary64

namespace Token

/-- A literal other than zero reads as the number that it denotes, however it is
written. -/
theorem number?_of_denotes {token : String} {d : Decimal}
    (h : Decimal.Denotes token.toList d.toRat) (hd : d.coefficient ≠ 0) :
    number? token = .ok (if d.toBinary64.isFinite then some d.toBinary64 else none) := by
  obtain ⟨e, hparse, hrat⟩ := h.exists_parse?
  rw [number?_of_literal hparse, Decimal.toBinary64_congr hrat.symm hd]

variable {x y : Binary64}

theorem number?_of_finite {token : String} {d : Decimal} {sign : Bool} {m : Magnitude}
    (h : Decimal.Denotes token.toList d.toRat) (hd : d.toBinary64 = .finite sign m)
    (hm : m.units ≠ 0) : number? token = .ok (some (.finite sign m)) := by
  rw [number?_of_denotes h (Decimal.coefficient_ne_zero hd hm), hd]
  rfl

theorem number?_of_zero {token : String} {d : Decimal} (h : Decimal.parse? token.toList = some d)
    (hd : d.coefficient = 0) : number? token = .ok (some (.zero d.negative)) := by
  rw [number?_of_literal h, Decimal.toBinary64_of_coefficient_eq_zero hd]
  rfl

/-! ## The exact text -/

theorem toList_text (negative : Bool) (m : Magnitude) :
    (Binary64.finite negative m).text.toList = (if negative then ['-'] else []) ++ m.text := by
  cases negative with
  | false => simp [Binary64.text]
  | true => simp [Binary64.text]

theorem denotes_text {m : Magnitude} (hm : m.units ≠ 0) (negative : Bool) :
    Decimal.Denotes (Binary64.finite negative m).text.toList
      { m.shortest with negative := negative }.toRat := by
  rw [toList_text]
  exact (Magnitude.unsigned_text hm).denotes_toRat negative

/-- The exact text of a finite number reads back, that of either zero too. -/
theorem number?_text (hx : x.isFinite = true) : number? x.text = .ok (some x) := by
  cases x with
  | nan => contradiction
  | infinity negative => contradiction
  | finite negative m =>
      by_cases hm : m.units = 0
      · obtain rfl := (Magnitude.units_eq_zero_iff m).1 hm
        cases negative with
        | false => exact number?_of_zero (d := ⟨false, 0, -1⟩) rfl rfl
        | true => exact number?_of_zero (d := ⟨true, 0, -1⟩) rfl rfl
      · have hread := Decimal.toBinary64_signed m.toBinary64_shortest negative
        exact number?_of_finite (denotes_text hm negative) hread hm

/-! ## The text for display -/

theorem toList_toString_ofNat (n : ℕ) : (toString (n : ℤ)).toList = Nat.toDigits 10 n := by
  show (Nat.repr n).toList = _
  rw [Nat.repr_eq_ofList_toDigits, String.toList_ofList]

theorem toList_toString_neg {n : ℕ} (hn : n ≠ 0) :
    (toString (-(n : ℤ))).toList = '-' :: Nat.toDigits 10 n := by
  obtain ⟨n, rfl⟩ := Nat.exists_eq_succ_of_ne_zero hn
  show ("-" ++ Nat.repr (n + 1)).toList = _
  simp only [Nat.repr_eq_ofList_toDigits, String.toList_append, String.toList_ofList]
  rfl

/-- The text of a whole number without a point denotes it. -/
theorem denotes_toString {n : ℕ} (hn : n ≠ 0) (negative : Bool) :
    Decimal.Denotes (toString (if negative then -(n : ℤ) else n)).toList
      { negative, coefficient := n, exponent := 0 : Decimal }.toRat := by
  have hdigits := (Decimal.Significand.whole (Decimal.isDigits_toDigits n)).unsigned
  have hunsigned : Decimal.Unsigned (Nat.toDigits 10 n)
      (Decimal.coefficient ⟨negative, n, 0⟩ * 10 ^ Decimal.exponent ⟨negative, n, 0⟩) := by
    simpa [Decimal.numeral_toDigits] using hdigits
  have hdenotes := hunsigned.denotes_toRat negative
  cases negative with
  | false =>
      rw [if_neg Bool.false_ne_true, toList_toString_ofNat]
      exact hdenotes
  | true =>
      rw [if_pos rfl, toList_toString_neg hn]
      exact hdenotes

/-- A whole number reads back from its text without a point, but for the sign of zero. -/
theorem number?_toString {m : Magnitude} {n : ℕ} (hm : m.units = n * Magnitude.one)
    (hn : n ≠ 0) (negative : Bool) :
    number? (toString (if negative then -(n : ℤ) else n)) = .ok (some (.finite negative m)) := by
  have hread : Decimal.toBinary64 { negative, coefficient := n, exponent := 0 } =
      .finite negative m := by
    have hquotient : Decimal.quotient { negative, coefficient := n, exponent := 0 } =
        (m.units, 1) := by
      simp [Decimal.quotient, hm]
    rw [Decimal.toBinary64_eq, hquotient]
    exact Binary64.ofQuotient_units negative m
  refine number?_of_finite (denotes_toString hn negative) hread ?_
  rw [hm]
  exact Nat.mul_ne_zero hn Magnitude.one_pos.ne'

theorem display_of_whole {negative : Bool} {m : Magnitude}
    (h : (Binary64.finite negative m).isSmallWhole = true) :
    ∃ n : ℕ, m.units = n * Magnitude.one ∧
      (Binary64.finite negative m).display =
        .ok (toString (if negative then -(n : ℤ) else n)) := by
  have hwhole : m.units % Magnitude.one = 0 := by
    have hsmall := Bool.and_eq_true_iff.1 h
    exact of_decide_eq_true hsmall.1
  refine ⟨m.units / Magnitude.one, (Nat.div_mul_cancel (Nat.dvd_of_mod_eq_zero hwhole)).symm, ?_⟩
  rw [Binary64.display, if_pos h]
  rfl

theorem display_of_not_whole (h : x.isSmallWhole = false) : x.display = .ok x.text := by
  rw [Binary64.display, if_neg (by simp [h])]
  rfl

/-- Either zero is displayed without a sign. -/
theorem display_zero (negative : Bool) : (Binary64.zero negative).display = .ok "0" := by
  have hsmall : (Binary64.zero negative).isSmallWhole = true := by
    have hpos : 0 < 2 ^ (53 : ℕ) * Magnitude.one := Nat.mul_pos (by decide) Magnitude.one_pos
    simp [Binary64.zero, Binary64.isSmallWhole, Binary64.isWhole, hpos]
  obtain ⟨n, hn, hdisplay⟩ := display_of_whole hsmall
  have hzero : n = 0 := by
    simpa [Magnitude.one_pos.ne'] using hn.symm
  subst hzero
  rw [Binary64.zero, hdisplay]
  cases negative <;> rfl

theorem number?_zero : number? "0" = .ok (some (.zero false)) :=
  number?_of_zero (d := ⟨false, 0, 0⟩) rfl rfl

theorem display_displayed (x : Binary64) : x.displayed.display = x.display := by
  by_cases hx : x = .zero true
  · rw [hx, Binary64.displayed_zero, display_zero, display_zero]
  · rw [Binary64.displayed, if_neg hx]

/-- A finite number other than zero reads back from its text for display. -/
theorem number?_of_display_finite {negative : Bool} {m : Magnitude} (hm : m.units ≠ 0)
    {text : String} (h : (Binary64.finite negative m).display = .ok text) :
    number? text = .ok (some (.finite negative m)) := by
  cases hsmall : (Binary64.finite negative m).isSmallWhole with
  | true =>
      obtain ⟨n, hunits, hdisplay⟩ := display_of_whole hsmall
      have hn : n ≠ 0 := by
        rintro rfl
        exact hm (by rw [hunits, Nat.zero_mul])
      rw [hdisplay, Except.ok.injEq] at h
      rw [← h]
      exact number?_toString hunits hn negative
  | false =>
      rw [display_of_not_whole hsmall, Except.ok.injEq] at h
      rw [← h]
      exact number?_text rfl

/-- A finite number reads back from its text for display, but for the sign of zero. -/
theorem number?_of_display {text : String} (hx : x.isFinite = true) (h : x.display = .ok text) :
    number? text = .ok (some x.displayed) := by
  rcases Binary64.eq_zero_or_units_ne_zero hx with ⟨negative, rfl⟩ | ⟨negative, m, rfl, hm⟩
  · rw [display_zero, Except.ok.injEq] at h
    rw [← h, number?_zero, Binary64.displayed_zero]
  · rw [Binary64.displayed_finite hm]
    exact number?_of_display_finite hm h

/-- Finite numbers have one text for display if and only if they are numerically equal. -/
theorem display_eq_iff (hx : x.isFinite = true) (hy : y.isFinite = true) :
    x.display = y.display ↔ x.numEq y = true := by
  rw [Binary64.numEq_iff_displayed hx hy]
  constructor
  · intro h
    obtain ⟨text, htext⟩ := x.exists_display
    have hnumber := number?_of_display hx htext
    rw [number?_of_display hy (h ▸ htext), Except.ok.injEq, Option.some.injEq] at hnumber
    exact hnumber.symm
  · intro h
    rw [← display_displayed x, h, display_displayed y]

theorem kind_of_display_not_finite (hx : x.isFinite = false) :
    ∃ text, x.display = .ok text ∧ kind text = .ok .invalid := by
  cases x with
  | nan => exact ⟨"nan", rfl, by decide⟩
  | infinity negative =>
    cases negative with
    | false => exact ⟨"inf", rfl, by decide⟩
    | true => exact ⟨"-inf", rfl, by decide⟩
  | finite negative m => contradiction

/-- The text for display of a finite number is a number, and reads as that one but for the
sign of zero, so that numerically equal numbers alone share a text.  The text of any other
number is neither a number nor an operator. -/
theorem display_reads_back :
    (∀ x : Binary64, x.isFinite = true → ∃ text, x.display = .ok text ∧
      kind text = .ok .number ∧
      number? text = .ok (some x.displayed)) ∧
    (∀ x : Binary64, x.isFinite = false → ∃ text, x.display = .ok text ∧
      kind text = .ok .invalid) ∧
    ∀ x y : Binary64, x.isFinite = true → y.isFinite = true →
      (x.display = y.display ↔ x.numEq y = true) := by
  refine ⟨fun x hx => ?_, fun x hx => kind_of_display_not_finite hx,
    fun x y hx hy => display_eq_iff hx hy⟩
  obtain ⟨text, htext⟩ := x.exists_display
  have hnumber := number?_of_display hx htext
  exact ⟨text, htext, kind_of_number? hnumber, hnumber⟩

/-- The number nearest to minus ten to the power of 23 is written with an exponent. -/
theorem display_reads_back_large :
    let x := Binary64.finite true ⟨5960464477539062, 1098, by decide, by decide, by decide⟩
    x.isFinite = true ∧ x.display = .ok "-1e+23" ∧ number? "-1e+23" = .ok (some x) := by
  intro x
  obtain ⟨text, htext, -, hnumber⟩ := display_reads_back.1 x rfl
  have hdisplay : x.display = .ok "-1e+23" := by decide +kernel
  rw [hdisplay, Except.ok.injEq] at htext
  subst htext
  exact ⟨rfl, hdisplay, hnumber⟩

end Token

end PostfixCalc
