import PostfixCalc.Binary64.Nearest
import PostfixCalc.Operator.Apply
import PostfixCalc.Proofs.Binary64.Parity
import PostfixCalc.Proofs.Binary64.Trapping

/-!
# Powers without traps

The power of IEEE 754 has a value for all numbers (`SpecialPower` lists those that do not
come from computing), but the primitive traps at some finite arguments.  The operator tells
from the trap and the arguments which value is meant (`powerBy_eq_pow`): after an overflow and
at zero to a negative power an infinity, whose sign is that of the base for an odd exponent
and positive for any other, and no number at the other undefined powers.  None of this
depends on how the other powers are rounded, so that it holds of every power function that
keeps to the standard (`IsPower`) and every primitive that traps at these arguments
(`Guards`), and of the ones here among them (`isPower_pow`, `guards_powTrapping`).
-/

namespace PostfixCalc

-- Powers of whole numbers are those of the core library.
attribute [local instance (high)] instPowNat

namespace Binary64

/-- The number is above zero. -/
def isAboveZero (x : Binary64) : Bool :=
  x.neg.isBelowZero

/-- The result has the sign of the base for an odd exponent, and else no sign. -/
def SignOfPower (base exponent : Binary64) (negative : Bool) : Prop :=
  negative = true ↔ base.isSigned = true ∧ exponent.IsOddWhole

/-- The powers that IEEE 754 and the C standard lay down one by one: those of one and of
minus one, of zeros and infinities, those to zeros and infinities, and those of what is not
a number or has no power. -/
inductive SpecialPower : Binary64 → Binary64 → Binary64 → Prop
  | toZero (x : Binary64) {y : Binary64} (h : y.isZero = true) : SpecialPower x y one
  | ofOne (y : Binary64) : SpecialPower one y one
  | ofMinusOne (t : Bool) : SpecialPower (finite true .unity) (infinity t) one
  | zeroToBelow {s negative : Bool} {y : Binary64} (h : y.isBelowZero = true)
      (hsign : SignOfPower (zero s) y negative) : SpecialPower (zero s) y (infinity negative)
  | zeroToAbove {s negative : Bool} {y : Binary64} (h : y.isAboveZero = true)
      (hsign : SignOfPower (zero s) y negative) : SpecialPower (zero s) y (zero negative)
  | infinityToBelow {s negative : Bool} {y : Binary64} (h : y.isBelowZero = true)
      (hsign : SignOfPower (infinity s) y negative) : SpecialPower (infinity s) y (zero negative)
  | infinityToAbove {s negative : Bool} {y : Binary64} (h : y.isAboveZero = true)
      (hsign : SignOfPower (infinity s) y negative) :
      SpecialPower (infinity s) y (infinity negative)
  | smallToInfinity {s : Bool} {m : Magnitude} (t : Bool) (h : m.units < Magnitude.one) :
      SpecialPower (finite s m) (infinity t) (if t then infinity false else zero false)
  | largeToInfinity {s : Bool} {m : Magnitude} (t : Bool) (h : Magnitude.one < m.units) :
      SpecialPower (finite s m) (infinity t) (if t then zero false else infinity false)
  | undefined {x y : Binary64} (hx : x.isFinite = true) (hbelow : x.isBelowZero = true)
      (hy : y.isFinite = true) (hwhole : y.isWhole = false) : SpecialPower x y nan
  | ofNaN {y : Binary64} (h : y.isZero = false) : SpecialPower nan y nan
  | toNaN {x : Binary64} (h : x ≠ one) : SpecialPower x nan nan

/-- What a power function answers by the standards: the special powers, and where a power of
finite numbers is out of range, an infinity with the sign of the exact power. -/
structure IsPower (pow : Binary64 → Binary64 → Binary64) : Prop where
  special : ∀ {x y z}, SpecialPower x y z → pow x y = z
  overflow_sign : ∀ {x y negative}, x.isFinite = true → y.isFinite = true → x.isZero = false →
    pow x y = infinity negative → SignOfPower x y negative

/-- The primitive guards a power function: it traps at finite arguments alone, at zero to a
negative power and at a negative number to a power that is not whole, and where any other
number has an infinite power.  Elsewhere it answers the power. -/
structure Guards (trapping : Binary64 → Binary64 → Except Fault Binary64)
    (pow : Binary64 → Binary64 → Binary64) : Prop where
  undefined_iff : ∀ x y, trapping x y = .error .undefinedResult ↔
    (x.isFinite = true ∧ y.isFinite = true) ∧
      (x.isZero = true ∧ y.isBelowZero = true ∨ x.isBelowZero = true ∧ y.isWhole = false)
  overflow_iff : ∀ x y, trapping x y = .error .overflow ↔
    (x.isFinite = true ∧ y.isFinite = true) ∧
      x.isZero = false ∧ ∃ negative, pow x y = infinity negative
  answers : ∀ x y, trapping x y = .error .undefinedResult ∨ trapping x y = .error .overflow ∨
    trapping x y = .ok (pow x y)

variable {x y z : Binary64} {negative s t : Bool} {m n : Magnitude}
  {pow' : Binary64 → Binary64 → Binary64}
  {trapping : Binary64 → Binary64 → Except Fault Binary64}

theorem signOfPower_iff : SignOfPower x y negative ↔ negative = (x.isSigned && y.isOdd) := by
  rw [Bool.eq_iff_iff, Bool.and_eq_true, isOdd_iff]
  rfl

/-! ## What the power is, class by class -/

theorem pow_toZero (x : Binary64) (h : y.isZero = true) : x.pow y = one := by
  simp [pow, h]

theorem pow_ofOne (y : Binary64) : one.pow y = one := by
  simp [pow]

theorem pow_ofNaN (h : y.isZero = false) : nan.pow y = nan := by
  simp [pow, h, one]

theorem pow_toNaN (h : x ≠ one) : x.pow nan = nan := by
  cases x <;> simp [pow, h, isZero]

theorem pow_finite_infinity (t : Bool) (hx : finite s m ≠ one) :
    (finite s m).pow (infinity t) =
      if m = .unity then one
      else powerOfZero false (if m.units < Magnitude.one then t else !t) := by
  simp [pow, isZero, hx]

theorem pow_finite_finite (hx : finite s m ≠ one) (hy : (finite t n).isZero = false) :
    (finite s m).pow (finite t n) =
      if m.units = 0 then powerOfZero (s && isOdd (finite t n)) t
      else
        if s && !isWhole (finite t n) then nan
        else
          if m = .unity then one.withSign (s && isOdd (finite t n))
          else (powerMagnitude m t n).withSign (s && isOdd (finite t n)) := by
  simp only [pow, hy, hx, decide_false, Bool.or_self, Bool.false_eq_true, if_false]

theorem zero_ne_one : zero s ≠ one := by
  cases s <;> decide

theorem pow_zero (hy : y.isZero = false) (hnan : y ≠ nan) :
    (zero s).pow y = powerOfZero (s && y.isOdd) y.isSigned := by
  cases y with
  | nan => exact absurd rfl hnan
  | infinity t =>
      have hunity : Magnitude.zero ≠ Magnitude.unity := by decide
      have hpos : Magnitude.zero.units < Magnitude.one := by
        rw [Magnitude.units_zero]
        exact Magnitude.one_pos
      rw [zero, pow_finite_infinity t zero_ne_one, if_neg hunity, if_pos hpos]
      simp [isOdd, isSigned]
  | finite t n =>
      rw [zero, pow_finite_finite zero_ne_one hy, if_pos Magnitude.units_zero]
      rfl

theorem pow_infinity (hy : y.isZero = false) (hnan : y ≠ nan) :
    (infinity s).pow y = powerOfZero (s && y.isOdd) (!y.isSigned) := by
  cases y with
  | nan => exact absurd rfl hnan
  | infinity t => simp [pow, isZero, one, isOdd, isSigned, pow.powerOfInfinity]
  | finite t n => simp [pow, hy, one, isSigned, pow.powerOfInfinity]

/-! ## Special powers -/

theorem of_isBelowZero (h : y.isBelowZero = true) :
    y.isZero = false ∧ y ≠ nan ∧ y.isSigned = true := by
  cases y <;> simp_all [isBelowZero, isZero, isSigned]

theorem of_isAboveZero (h : y.isAboveZero = true) :
    y.isZero = false ∧ y ≠ nan ∧ y.isSigned = false := by
  cases y <;> simp_all [isAboveZero, neg, isBelowZero, isZero, isSigned]

theorem finite_ne_one (h : m.units ≠ Magnitude.one) : finite s m ≠ one ∧ m ≠ .unity := by
  have hunity : m ≠ .unity := by
    rintro rfl
    exact h Magnitude.units_unity
  exact ⟨fun heq => hunity (finite.inj heq).2, hunity⟩

theorem pow_of_special (h : SpecialPower x y z) : x.pow y = z := by
  cases h with
  | toZero x h => exact pow_toZero x h
  | ofOne y => exact pow_ofOne y
  | ofMinusOne t =>
      have hminus : finite true .unity ≠ one := by decide
      rw [pow_finite_infinity t hminus, if_pos rfl]
  | zeroToBelow h hsign =>
      obtain ⟨hzero, hnan, hsigned⟩ := of_isBelowZero h
      rw [pow_zero hzero hnan, hsigned, signOfPower_iff.1 hsign]
      rfl
  | zeroToAbove h hsign =>
      obtain ⟨hzero, hnan, hsigned⟩ := of_isAboveZero h
      rw [pow_zero hzero hnan, hsigned, signOfPower_iff.1 hsign]
      rfl
  | infinityToBelow h hsign =>
      obtain ⟨hzero, hnan, hsigned⟩ := of_isBelowZero h
      rw [pow_infinity hzero hnan, hsigned, signOfPower_iff.1 hsign]
      rfl
  | infinityToAbove h hsign =>
      obtain ⟨hzero, hnan, hsigned⟩ := of_isAboveZero h
      rw [pow_infinity hzero hnan, hsigned, signOfPower_iff.1 hsign]
      rfl
  | smallToInfinity t h =>
      obtain ⟨hone, hunity⟩ := finite_ne_one (Nat.ne_of_lt h)
      rw [pow_finite_infinity t hone, if_neg hunity, if_pos h]
      rfl
  | largeToInfinity t h =>
      obtain ⟨hone, hunity⟩ := finite_ne_one (Nat.ne_of_gt h)
      rw [pow_finite_infinity t hone, if_neg hunity, if_neg (Nat.lt_asymm h)]
      cases t <;> rfl
  | undefined hx hbelow hy hwhole => exact pow_of_not_isWhole hx hbelow hy hwhole
  | ofNaN h => exact pow_ofNaN h
  | toNaN h => exact pow_toNaN h

/-! ## The sign of an infinite power -/

theorem eq_zero_of_isZero (h : x.isZero = true) : x = zero x.isSigned := by
  cases x with
  | nan => contradiction
  | infinity _ => contradiction
  | finite s m =>
      have hm : m.units = 0 := by simpa [isZero] using h
      rw [m.units_eq_zero_iff.1 hm]
      rfl

theorem isBelowZero_eq_isSigned (h : x.isZero = false) : x.isBelowZero = x.isSigned := by
  cases x <;> simp_all [isZero, isBelowZero, isSigned]

theorem isBelowZero_or_isAboveZero (hzero : y.isZero = false) (hnan : y ≠ nan) :
    y.isBelowZero = true ∨ y.isAboveZero = true := by
  cases y <;> simp_all [isZero, isBelowZero, isAboveZero, neg]

/-- The powers of zeros and of infinities are special, and so are those to infinities. -/
theorem exists_special (h : ¬ (x.isFinite = true ∧ y.isFinite = true) ∨ x.isZero = true) :
    ∃ z, SpecialPower x y z := by
  by_cases hzero : y.isZero = true
  · exact ⟨_, .toZero x hzero⟩
  rw [Bool.not_eq_true] at hzero
  by_cases hone : x = one
  · exact ⟨one, hone ▸ .ofOne y⟩
  by_cases hnan : y = nan
  · exact ⟨nan, hnan ▸ .toNaN hone⟩
  have hsign : ∀ x : Binary64, SignOfPower x y (x.isSigned && y.isOdd) :=
    fun x => signOfPower_iff.2 rfl
  have hside := isBelowZero_or_isAboveZero hzero hnan
  cases x with
  | nan => exact ⟨nan, .ofNaN hzero⟩
  | infinity s =>
      rcases hside with hbelow | habove
      · exact ⟨_, .infinityToBelow hbelow (hsign _)⟩
      · exact ⟨_, .infinityToAbove habove (hsign _)⟩
  | finite s m =>
      by_cases hbase : (finite s m).isZero = true
      · rw [eq_zero_of_isZero hbase]
        rcases hside with hbelow | habove
        · exact ⟨_, .zeroToBelow hbelow (hsign _)⟩
        · exact ⟨_, .zeroToAbove habove (hsign _)⟩
      · obtain ⟨t, rfl⟩ : ∃ t, y = infinity t := by
          cases y <;> simp_all [isFinite]
        rcases Nat.lt_trichotomy m.units Magnitude.one with hlt | heq | hgt
        · exact ⟨_, .smallToInfinity t hlt⟩
        · obtain rfl : m = .unity := Magnitude.units_injective (heq.trans Magnitude.units_unity.symm)
          cases s with
          | false => exact absurd rfl hone
          | true => exact ⟨one, .ofMinusOne t⟩
        · exact ⟨_, .largeToInfinity t hgt⟩

theorem signOfPower_to_infinity (x : Binary64) (t : Bool) :
    SignOfPower x (infinity t) false :=
  signOfPower_iff.2 (by simp [isOdd])

theorem signOfPower_of_special (h : SpecialPower x y (infinity negative)) :
    SignOfPower x y negative := by
  generalize hz : infinity negative = z at h
  cases h with
  | zeroToBelow _ hsign =>
      rw [infinity.inj hz]
      exact hsign
  | infinityToAbove _ hsign =>
      rw [infinity.inj hz]
      exact hsign
  | smallToInfinity t _ =>
      cases t with
      | false => contradiction
      | true =>
          rw [infinity.inj hz]
          exact signOfPower_to_infinity _ true
  | largeToInfinity t _ =>
      cases t with
      | false =>
          rw [infinity.inj hz]
          exact signOfPower_to_infinity _ false
      | true => contradiction
  | _ => contradiction

/-- An infinite power is negative if the base is signed and the exponent is odd, and else
positive. -/
theorem IsPower.signOfPower (hpow : IsPower pow') (h : pow' x y = infinity negative) :
    SignOfPower x y negative := by
  have hspecial : (¬ (x.isFinite = true ∧ y.isFinite = true) ∨ x.isZero = true) →
      SignOfPower x y negative := by
    intro hclass
    obtain ⟨z, hz⟩ := exists_special hclass
    obtain rfl : infinity negative = z := h.symm.trans (hpow.special hz)
    exact signOfPower_of_special hz
  by_cases hfinite : x.isFinite = true ∧ y.isFinite = true
  · cases hzero : x.isZero with
    | true => exact hspecial (.inr hzero)
    | false => exact hpow.overflow_sign hfinite.1 hfinite.2 hzero h
  · exact hspecial (.inl hfinite)

theorem withSign_eq_infinity (h : x.withSign s = infinity negative) : negative = s := by
  cases x with
  | nan => contradiction
  | infinity _ => exact (infinity.inj h).symm
  | finite _ _ => contradiction

/-- Where the power of finite numbers is out of range, its sign is set last. -/
theorem sign_of_overflow (hx : x.isFinite = true) (hy : y.isFinite = true)
    (hzero : x.isZero = false) (h : x.pow y = infinity negative) : SignOfPower x y negative := by
  obtain ⟨s, m, rfl⟩ := isFinite_iff.1 hx
  obtain ⟨t, n, rfl⟩ := isFinite_iff.1 hy
  have hm : m.units ≠ 0 := by simpa [isZero] using hzero
  rw [signOfPower_iff]
  by_cases hone : finite s m = one
  · rw [hone, pow_ofOne] at h
    contradiction
  · cases hexponent : (finite t n).isZero with
    | true =>
        rw [pow_toZero _ hexponent] at h
        contradiction
    | false =>
        rw [pow_finite_finite hone hexponent, if_neg hm] at h
        split at h
        · contradiction
        · split at h
          · exact withSign_eq_infinity h
          · exact withSign_eq_infinity h

/-- The power here keeps to the standards. -/
theorem isPower_pow : IsPower pow where
  special := pow_of_special
  overflow_sign := sign_of_overflow

/-! ## The operator -/

theorem eq_pow_of_powTrapping (h : x.powTrapping y = .ok z) : z = x.pow y := by
  by_cases hfinite : x.isFinite = true ∧ y.isFinite = true
  · rw [powTrapping_of_finite hfinite.1 hfinite.2] at h
    split at h
    · contradiction
    · split at h
      · contradiction
      · exact (Except.ok.inj h).symm
  · rw [powTrapping_of_not_finite hfinite] at h
    exact (Except.ok.inj h).symm

/-- The primitive here traps where it should. -/
theorem guards_powTrapping : Guards powTrapping pow where
  undefined_iff := fun x y => by
    rw [powTrapping_eq_error_iff]
    simp [isUndefinedPower]
  overflow_iff := fun x y => by
    rw [powTrapping_eq_error_iff]
    simp
  answers := fun x y => by
    cases htrap : x.powTrapping y with
    | ok z => exact .inr (.inr (congrArg Except.ok (eq_pow_of_powTrapping htrap)))
    | error f =>
        obtain ⟨-, ⟨-, rfl⟩ | ⟨-, rfl⟩⟩ := powTrapping_eq_error_iff.1 htrap
        · exact .inl rfl
        · exact .inr (.inl rfl)

end Binary64

open Binary64

variable {pow' : Binary64 → Binary64 → Binary64}
  {trapping : Binary64 → Binary64 → Except Fault Binary64}

/-- The operator answers the power, also where the primitive traps. -/
theorem powerBy_eq_pow (hpow : IsPower pow') (hguards : Guards trapping pow')
    (base exponent : Binary64) :
    powerBy trapping base exponent = .ok (pow' base exponent) := by
  unfold powerBy
  rcases hguards.answers base exponent with hundefined | hoverflow | hanswer
  · rw [hundefined]
    obtain ⟨⟨hbase, hexponent⟩, ⟨hzero, hbelow⟩ | ⟨hbelow, hwhole⟩⟩ :=
      (hguards.undefined_iff base exponent).1 hundefined
    · -- Zero to a negative power.
      have hsign : SignOfPower (zero base.isSigned) exponent (base.isSigned && exponent.isOdd) :=
        signOfPower_iff.2 rfl
      have hspecial := hpow.special (.zeroToBelow hbelow hsign)
      rw [← eq_zero_of_isZero hzero] at hspecial
      simp only [hzero, if_true, hspecial, leavesOne_eq_isOdd, Bool.and_comm]
    · have hnonzero : base.isZero = false := by
        cases base <;> simp_all [isBelowZero, isZero]
      have hspecial := hpow.special (.undefined hbase hbelow hexponent hwhole)
      simp [hnonzero, hspecial]
  · rw [hoverflow]
    obtain ⟨-, hzero, negative, hinfinite⟩ := (hguards.overflow_iff base exponent).1 hoverflow
    have hsign := signOfPower_iff.1 (hpow.signOfPower hinfinite)
    simp only [isBelowZero_eq_isSigned hzero, leavesOne_eq_isOdd, hinfinite, hsign]
  · rw [hanswer]

theorem power_eq_pow (base exponent : Binary64) :
    power base exponent = .ok (base.pow exponent) :=
  powerBy_eq_pow isPower_pow guards_powTrapping base exponent

/-- By whatever library, as long as its power function keeps to the standards and its
primitive guards this function: the operator answers the power everywhere, and an infinite
one is negative if and only if the base is signed and the exponent is an odd whole number,
which the remainder by two tells of every number.  The primitive and the power here are such
a library: the primitive traps at finite arguments alone, at zero to a negative power and at
a negative number to a power that is not whole, and where any other number has an infinite
power; elsewhere it answers the power, which at the special arguments is what is laid
down. -/
theorem apply_pow_ieee :
    (∀ (pow : Binary64 → Binary64 → Binary64)
        (trapping : Binary64 → Binary64 → Except Fault Binary64),
      IsPower pow → Guards trapping pow → ∀ x y : Binary64,
        powerBy trapping x y = .ok (pow x y) ∧
          ∀ negative, pow x y = .infinity negative →
            (negative = true ↔ x.isSigned = true ∧ y.IsOddWhole)) ∧
    (∀ x y : Binary64,
      (∀ f, x.powTrapping y = .error f ↔
        (x.isFinite = true ∧ y.isFinite = true) ∧
          ((x.isZero = true ∧ y.isBelowZero = true ∨ x.isBelowZero = true ∧ y.isWhole = false) ∧
              f = .undefinedResult ∨
            (x.isZero = false ∧ ∃ negative, x.pow y = .infinity negative) ∧ f = .overflow)) ∧
      ∀ z, x.powTrapping y = .ok z → z = x.pow y) ∧
    (∀ x y z : Binary64, SpecialPower x y z → x.pow y = z) ∧
    (∀ x y : Binary64,
      BinaryOperator.pow.apply x y = .ok (x.pow y) ∧
        ∀ negative, x.pow y = .infinity negative →
          (negative = true ↔ x.isSigned = true ∧ y.IsOddWhole)) ∧
    ∀ n : Binary64, n.leavesOne = true ↔ n.IsOddWhole := by
  refine ⟨?_, ?_, fun x y z => pow_of_special, ?_, fun n => leavesOne_iff⟩
  · intro pow trapping hpow hguards x y
    exact ⟨powerBy_eq_pow hpow hguards x y, fun negative => hpow.signOfPower⟩
  · intro x y
    refine ⟨fun f => ?_, fun z => eq_pow_of_powTrapping⟩
    rw [powTrapping_eq_error_iff]
    simp [isUndefinedPower]
  · intro x y
    exact ⟨power_eq_pow x y, fun negative => isPower_pow.signOfPower⟩

/-- Zero with a sign to the power of minus three, and minus ten to the power of 401. -/
theorem apply_pow_ieee_odd :
    let threeBelow := ofUnits (-3 * Magnitude.one)
    let tenBelow := ofUnits (-10 * Magnitude.one)
    let large := ofUnits (401 * Magnitude.one)
    (zero true).powTrapping threeBelow = .error .undefinedResult ∧
      BinaryOperator.pow.apply (zero true) threeBelow = .ok (.infinity true) ∧
      tenBelow.powTrapping large = .error .overflow ∧
      powerBy powTrapping tenBelow large = .ok (.infinity true) ∧
      tenBelow.isSigned = true ∧ large.IsOddWhole := by
  intro threeBelow tenBelow large
  obtain ⟨hlibrary, htraps, hspecial, hoperator, hodd⟩ := apply_pow_ieee
  have hthree : threeBelow.IsOddWhole := (hodd threeBelow).1 (by decide +kernel)
  have hsign : SignOfPower (zero true) threeBelow true :=
    iff_of_true rfl ⟨rfl, hthree⟩
  have hbelow : threeBelow.isBelowZero = true := by decide +kernel
  have hpow := hspecial _ _ _ (.zeroToBelow hbelow hsign)
  have hminus : tenBelow.pow large = .infinity true := by decide +kernel
  have hundefined := ((htraps (zero true) threeBelow).1 .undefinedResult).2
    ⟨⟨rfl, by decide +kernel⟩, .inl ⟨.inl ⟨rfl, hbelow⟩, rfl⟩⟩
  have hoverflow := ((htraps tenBelow large).1 .overflow).2
    ⟨⟨by decide +kernel, by decide +kernel⟩, .inr ⟨⟨by decide +kernel, true, hminus⟩, rfl⟩⟩
  obtain ⟨hanswer, hsigned⟩ := hlibrary pow powTrapping isPower_pow guards_powTrapping
    tenBelow large
  refine ⟨hundefined, ?_, hoverflow, ?_, (hsigned true hminus).1 rfl⟩
  · rw [← hpow]
    exact (hoperator _ _).1
  · rw [← hminus]
    exact hanswer

end PostfixCalc
