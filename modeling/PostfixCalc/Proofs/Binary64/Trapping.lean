import PostfixCalc.Binary64.Trapping
import PostfixCalc.Decimal.Notation

/-!
# Where the primitives trap

Each primitive has a domain outside of which it traps, and one lemma says which
that is: quotients by zero, square roots of numbers below zero, angles that are
infinite, texts that spell no number, whole parts of what is not finite.  The power
has two traps, for undefined powers and for overflow, and they do not meet: zero has
no power that overflows, and an undefined power is not infinite.
-/

namespace PostfixCalc

namespace Binary64

variable {x y : Binary64} {f : Fault}

theorem guarded_eq_error_iff {α : Type} {guard : Bool} {trap : Fault} {value : α} :
    (if guard then .error trap else .ok value : Except Fault α) = .error f ↔
      guard = true ∧ f = trap := by
  cases guard <;> simp [eq_comm]

theorem divTrapping_eq_error_iff :
    x.divTrapping y = .error f ↔ y.isZero = true ∧ f = .zeroDivisor :=
  guarded_eq_error_iff

theorem sqrtTrapping_eq_error_iff :
    x.sqrtTrapping = .error f ↔ x.isBelowZero = true ∧ f = .undefinedResult :=
  guarded_eq_error_iff

theorem angleTrapping_eq_error_iff {function : Binary64 → Binary64} :
    x.angleTrapping function = .error f ↔
      (∃ negative, x = .infinity negative) ∧ f = .undefinedResult := by
  cases x <;> simp [angleTrapping, eq_comm]

theorem wholePart_eq_error_iff :
    x.wholePart = .error f ↔ x.isFinite = false ∧ f = .noWholePart := by
  cases x <;> simp [wholePart, isFinite, eq_comm]

theorem read_eq_error_iff {text : String} :
    read text = .error f ↔
      (Decimal.parse? text.toList = none ∧ ofWord? text.toList = none) ∧
        f = .notANumber text := by
  unfold read
  cases Decimal.parse? text.toList with
  | some d => simp
  | none => cases ofWord? text.toList <;> simp [eq_comm]

/-! ## The power -/

theorem isFinite_iff : x.isFinite = true ↔ ∃ negative m, x = .finite negative m := by
  cases x <;> simp [isFinite]

/-- Zero to a power that is finite and not below zero is finite. -/
theorem pow_of_isZero (hx : x.isZero = true) (hy : y.isFinite = true)
    (hbelow : y.isBelowZero = false) : (x.pow y).isFinite = true := by
  obtain ⟨s, m, rfl⟩ : ∃ s m, x = .finite s m := by
    cases x <;> simp_all [isZero]
  obtain ⟨t, n, rfl⟩ := isFinite_iff.1 hy
  have hm : m.units = 0 := by simpa [isZero] using hx
  unfold pow
  split
  · rfl
  · rename_i hpower
    -- The exponent is not zero, and so it is unsigned.
    have ht : t = false := by simp_all [isZero, isBelowZero]
    simp [hm, ht, powerOfZero, zero, isFinite]

/-- A number below zero to a power that is not whole is not a number. -/
theorem pow_of_not_isWhole (hx : x.isFinite = true) (hbelow : x.isBelowZero = true)
    (hy : y.isFinite = true) (hwhole : y.isWhole = false) : x.pow y = .nan := by
  obtain ⟨s, m, rfl⟩ := isFinite_iff.1 hx
  obtain ⟨t, n, rfl⟩ := isFinite_iff.1 hy
  obtain ⟨rfl, hm⟩ : s = true ∧ m.units ≠ 0 := by simpa [isBelowZero] using hbelow
  -- Zero is whole, and one is not below zero.
  have hn : n.units ≠ 0 := by
    intro hzero
    simp [isWhole, hzero] at hwhole
  have hone : Binary64.finite true m ≠ one := by
    simp [one]
  simp [pow, isZero, hn, hone, hm, hwhole]

/-- The arguments of an undefined power: zero to a power below zero, or a number
below zero to a power that is not whole. -/
def isUndefinedPower (x y : Binary64) : Bool :=
  (x.isZero && y.isBelowZero) || (x.isBelowZero && !y.isWhole)

theorem powTrapping_of_finite (hx : x.isFinite = true) (hy : y.isFinite = true) :
    x.powTrapping y =
      if isUndefinedPower x y then .error .undefinedResult
      else
        match x.pow y with
        | .infinity _ => .error .overflow
        | _ => .ok (x.pow y) := by
  simp only [powTrapping, hx, hy, isUndefinedPower, Bool.and_self, if_true]
  cases x.pow y <;> rfl

theorem powTrapping_of_not_finite (h : ¬ (x.isFinite = true ∧ y.isFinite = true)) :
    x.powTrapping y = .ok (x.pow y) := by
  unfold powTrapping
  rw [if_neg (by simpa using h)]

/-- An undefined power is no overflow: its base is zero, or it is not a number. -/
theorem not_overflow_of_isUndefinedPower (hx : x.isFinite = true) (hy : y.isFinite = true)
    (h : isUndefinedPower x y = true) :
    ¬ (x.isZero = false ∧ ∃ negative, x.pow y = .infinity negative) := by
  rintro ⟨hzero, negative, hpow⟩
  simp only [isUndefinedPower, hzero, Bool.false_and, Bool.false_or, Bool.and_eq_true,
    Bool.not_eq_true'] at h
  rw [pow_of_not_isWhole hx h.1 hy h.2] at hpow
  contradiction

/-- An infinite power of finite arguments overflows, unless it is undefined. -/
theorem not_isZero_of_pow (hy : y.isFinite = true) (h : isUndefinedPower x y = false)
    {negative : Bool} (hpow : x.pow y = .infinity negative) : x.isZero = false := by
  cases hzero : x.isZero with
  | false => rfl
  | true =>
      have hbelow : y.isBelowZero = false := by
        simp_all [isUndefinedPower]
      have hfinite := pow_of_isZero hzero hy hbelow
      rw [hpow] at hfinite
      contradiction

theorem powTrapping_eq_error_iff :
    x.powTrapping y = .error f ↔
      (x.isFinite = true ∧ y.isFinite = true) ∧
        (isUndefinedPower x y = true ∧ f = .undefinedResult ∨
          (x.isZero = false ∧ ∃ negative, x.pow y = .infinity negative) ∧ f = .overflow) := by
  by_cases hfinite : x.isFinite = true ∧ y.isFinite = true
  · obtain ⟨hx, hy⟩ := hfinite
    rw [powTrapping_of_finite hx hy, and_iff_right ⟨hx, hy⟩]
    cases hundefined : isUndefinedPower x y with
    | true =>
        have hno := not_overflow_of_isUndefinedPower hx hy hundefined
        simp only [if_true, Except.error.injEq, true_and, hno, false_and, or_false]
        exact eq_comm
    | false =>
        cases hpow : x.pow y with
        | infinity negative =>
            have hzero := not_isZero_of_pow hy hundefined hpow
            simpa [hzero] using eq_comm
        | nan => simp
        | finite negative m => simp
  · simp [powTrapping_of_not_finite hfinite, hfinite]

end Binary64

end PostfixCalc
