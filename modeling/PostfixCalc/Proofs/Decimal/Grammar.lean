import Mathlib.Data.Nat.Digits.Defs
import Mathlib.Tactic.FieldSimp
import Mathlib.Tactic.Ring
import PostfixCalc.Decimal.Literal
import PostfixCalc.Proofs.Text.Runs

/-!
# The grammar of literals

A literal is an optional sign, a significand and an optional exponent,
`[+-]? (D+ ('.' D*)? | '.' D+) ([eE] [+-]? D+)?` with the ten ASCII digits for `D`,
and it denotes a rational number (`Denotes`).  The reader accepts the literals
(`Denotes.exists_parse?`) and nothing else (`denotes_of_parse?`), and the decimal that it
answers is the number denoted.  So a text denotes one number at most.
-/

namespace PostfixCalc

-- Powers of whole numbers are those of the core library.
attribute [local instance (high)] instPowNat

namespace Decimal

/-- At least one digit, and ASCII digits only. -/
def IsDigits (text : List Char) : Prop :=
  text ≠ [] ∧ ∀ c ∈ text, c.isDigit = true

/-- The whole number that digits spell, the last digit counting one. -/
def numeral (digits : List Char) : ℕ :=
  Nat.ofDigits 10 (digits.reverse.map fun c => c.toNat - '0'.toNat)

/-- An optional sign, and whether it is a minus. -/
inductive Sign : List Char → Bool → Prop
  | none : Sign [] false
  | plus : Sign ['+'] false
  | minus : Sign ['-'] true

/-- Digits with at most one point among them, after them or before them. -/
inductive Significand : List Char → ℚ → Prop
  | whole {digits : List Char} (h : IsDigits digits) : Significand digits (numeral digits)
  | pointed {digits fraction : List Char} (h : IsDigits digits)
      (hfraction : ∀ c ∈ fraction, c.isDigit = true) :
      Significand (digits ++ '.' :: fraction)
        (numeral digits + numeral fraction / 10 ^ fraction.length)
  | fraction {fraction : List Char} (h : IsDigits fraction) :
      Significand ('.' :: fraction) (numeral fraction / 10 ^ fraction.length)

/-- An optional exponent of ten. -/
inductive Exponent : List Char → ℤ → Prop
  | none : Exponent [] 0
  | some {mark : Char} {sign digits : List Char} {negative : Bool}
      (hmark : mark = 'e' ∨ mark = 'E') (hsign : Sign sign negative) (h : IsDigits digits) :
      Exponent (mark :: (sign ++ digits)) (if negative then -numeral digits else numeral digits)

/-- The text is a literal of the rational number. -/
inductive Denotes : List Char → ℚ → Prop
  | literal {sign significand exponent : List Char} {negative : Bool} {x : ℚ} {k : ℤ}
      (hsign : Sign sign negative) (hsignificand : Significand significand x)
      (hexponent : Exponent exponent k) :
      Denotes (sign ++ (significand ++ exponent)) ((if negative then -1 else 1) * x * 10 ^ k)

/-- The rational number that a decimal is. -/
def toRat (d : Decimal) : ℚ :=
  (if d.negative then -1 else 1) * d.coefficient * 10 ^ d.exponent

/-! ## Digits -/

theorem digitsValue_eq (digits : List Char) : digitsValue digits = numeral digits := by
  rw [numeral, Nat.ofDigits_eq_foldr, List.foldr_map, List.foldr_reverse]
  simp [digitsValue, Nat.add_comm]

theorem numeral_append (whole fraction : List Char) :
    numeral (whole ++ fraction) = numeral fraction + 10 ^ fraction.length * numeral whole := by
  simp [numeral, Nat.ofDigits_append]

/-- Digits after a point count tenths, hundredths and so on. -/
theorem digitsValue_append_div (whole fraction : List Char) :
    (digitsValue (whole ++ fraction) : ℚ) / 10 ^ fraction.length =
      numeral whole + numeral fraction / 10 ^ fraction.length := by
  rw [digitsValue_eq, numeral_append]
  push_cast
  field_simp
  ring

/-! ## Parts of a literal -/

variable {sign significand exponent digits rest text : List Char} {negative : Bool} {x q : ℚ}
  {k : ℤ}

theorem takeSign_append (h : Sign sign negative) (hrest : ∀ c ∈ rest.head?, c ≠ '+' ∧ c ≠ '-') :
    takeSign (sign ++ rest) = (negative, rest) := by
  cases h with
  | none =>
      rw [List.nil_append]
      unfold takeSign
      split
      · exact absurd rfl (hrest '+' (by simp)).1
      · exact absurd rfl (hrest '-' (by simp)).2
      · rfl
  | plus => rfl
  | minus => rfl

theorem exists_sign (text : List Char) :
    ∃ sign, Sign sign (takeSign text).1 ∧ text = sign ++ (takeSign text).2 := by
  unfold takeSign
  split
  · exact ⟨['+'], .plus, rfl⟩
  · exact ⟨['-'], .minus, rfl⟩
  · exact ⟨[], .none, rfl⟩

theorem takeDigits_append (hdigits : ∀ c ∈ digits, c.isDigit = true)
    (hrest : ∀ c ∈ rest.head?, c.isDigit = false) :
    takeDigits (digits ++ rest) = (digits, rest) := by
  have htake := Text.takeWhile_append_of_head hdigits hrest
  have hdrop := List.takeWhile_append_dropWhile (p := Char.isDigit) (l := digits ++ rest)
  rw [htake] at hdrop
  rw [takeDigits, htake, List.append_cancel_left hdrop]

theorem eq_append_of_takeDigits (h : takeDigits text = (digits, rest)) :
    text = digits ++ rest ∧ ∀ c ∈ digits, c.isDigit = true := by
  obtain ⟨rfl, rfl⟩ := Prod.mk.inj h
  exact ⟨List.takeWhile_append_dropWhile.symm, fun c hc => List.mem_takeWhile_imp hc⟩

/-- A fraction begins at a point; without one there is none. -/
theorem eq_of_takeFraction (h : takeFraction text = (digits, rest)) :
    (text = '.' :: (digits ++ rest) ∧ ∀ c ∈ digits, c.isDigit = true) ∨
      digits = [] ∧ rest = text := by
  unfold takeFraction at h
  split at h
  · obtain ⟨rfl, hdigits⟩ := eq_append_of_takeDigits h
    exact .inl ⟨rfl, hdigits⟩
  · obtain ⟨rfl, rfl⟩ := Prod.mk.inj h
    exact .inr ⟨rfl, rfl⟩

theorem takeFraction_of_head (hrest : ∀ c ∈ rest.head?, c ≠ '.') :
    takeFraction rest = ([], rest) := by
  unfold takeFraction
  split
  · exact absurd rfl (hrest '.' (by simp))
  · rfl

theorem isDigits_iff : IsDigits digits ↔ (!digits.isEmpty && digits.all Char.isDigit) = true := by
  simp [IsDigits]

/-! ## Exponents -/

theorem not_sign_of_isDigit {c : Char} (h : c.isDigit = true) : c ≠ '+' ∧ c ≠ '-' := by
  constructor <;> (rintro rfl; contradiction)

theorem head?_of_isDigits (h : IsDigits digits) :
    ∀ c ∈ (digits ++ rest).head?, c.isDigit = true := by
  obtain ⟨d, digits, rfl⟩ := List.exists_cons_of_ne_nil h.1
  simpa using h.2 d (by simp)

theorem parseExponent?_eq_some_iff :
    parseExponent? text = some k ↔
      ∃ sign negative digits, text = sign ++ digits ∧ Sign sign negative ∧ IsDigits digits ∧
        k = if negative then -(numeral digits : ℤ) else numeral digits := by
  constructor
  · intro h
    obtain ⟨sign, hsign, htext⟩ := exists_sign text
    simp only [parseExponent?] at h
    split at h
    · rename_i hdigits
      rw [Option.some.injEq, digitsValue_eq] at h
      exact ⟨sign, _, _, htext, hsign, isDigits_iff.2 hdigits, h.symm⟩
    · contradiction
  · rintro ⟨sign, negative, digits, rfl, hsign, hdigits, rfl⟩
    have hfirst : ∀ c ∈ digits.head?, c ≠ '+' ∧ c ≠ '-' := fun c hc =>
      not_sign_of_isDigit (hdigits.2 c (List.mem_of_mem_head? hc))
    simp only [parseExponent?, takeSign_append hsign hfirst]
    rw [if_pos (isDigits_iff.1 hdigits), digitsValue_eq]

theorem parseTail?_eq_some_iff : parseTail? exponent = some k ↔ Exponent exponent k := by
  constructor
  · intro h
    cases exponent with
    | nil =>
        obtain rfl : 0 = k := by simpa [parseTail?] using h
        exact .none
    | cons mark rest =>
        simp only [parseTail?] at h
        split at h
        · rename_i hmark
          obtain ⟨sign, negative, digits, rfl, hsign, hdigits, rfl⟩ :=
            parseExponent?_eq_some_iff.1 h
          exact .some hmark hsign hdigits
        · contradiction
  · intro h
    cases h with
    | none => rfl
    | some hmark hsign hdigits =>
        rw [parseTail?, if_pos hmark]
        exact parseExponent?_eq_some_iff.2 ⟨_, _, _, rfl, hsign, hdigits, rfl⟩

/-- An exponent continues neither digits nor a point. -/
theorem Exponent.head?_eq (h : Exponent exponent k) :
    ∀ c ∈ exponent.head?, c.isDigit = false ∧ c ≠ '.' := by
  cases h with
  | none => simp
  | some hmark hsign hdigits => rcases hmark with rfl | rfl <;> simp

/-! ## Significands -/

theorem Significand.head?_eq (h : Significand significand x) :
    ∀ c ∈ (significand ++ rest).head?, c ≠ '+' ∧ c ≠ '-' := by
  cases h with
  | whole h => exact fun c hc => not_sign_of_isDigit (head?_of_isDigits h c hc)
  | pointed h hfraction =>
      rw [List.append_assoc]
      exact fun c hc => not_sign_of_isDigit (head?_of_isDigits h c hc)
  | fraction h => simp

/-- A significand is read up to what continues neither digits nor a point. -/
theorem Significand.exists_take (h : Significand significand x)
    (hrest : ∀ c ∈ rest.head?, c.isDigit = false ∧ c ≠ '.') :
    ∃ whole fraction after, takeDigits (significand ++ rest) = (whole, after) ∧
      takeFraction after = (fraction, rest) ∧ (whole.isEmpty && fraction.isEmpty) = false ∧
      x = digitsValue (whole ++ fraction) / 10 ^ fraction.length := by
  have hend : ∀ c ∈ rest.head?, c.isDigit = false := fun c hc => (hrest c hc).1
  -- A point ends the digits before it.
  have hpoint : ∀ fraction : List Char, ∀ c ∈ ('.' :: fraction).head?, c.isDigit = false := by
    simp
  have hnone : ∀ c ∈ ([] : List Char), c.isDigit = true := by
    simp
  cases h with
  | whole h =>
      refine ⟨significand, [], rest, takeDigits_append h.2 hend,
        takeFraction_of_head fun c hc => (hrest c hc).2, by simp [h.1], ?_⟩
      simp [digitsValue_eq]
  | @pointed digits fraction h hfraction =>
      refine ⟨digits, fraction, '.' :: (fraction ++ rest), ?_, takeDigits_append hfraction hend,
        by simp [h.1], (digitsValue_append_div _ _).symm⟩
      rw [List.append_assoc]
      exact takeDigits_append h.2 (hpoint _)
  | @fraction fraction h =>
      refine ⟨[], fraction, '.' :: (fraction ++ rest), ?_, takeDigits_append h.2 hend,
        by simp [h.1], ?_⟩
      · exact takeDigits_append hnone (hpoint _)
      · simp [digitsValue_eq]

/-- What is read before the rest of a literal is a significand. -/
theorem exists_significand {body whole after fraction tail : List Char}
    (hwhole : takeDigits body = (whole, after)) (hfraction : takeFraction after = (fraction, tail))
    (hne : (whole.isEmpty && fraction.isEmpty) = false) :
    ∃ significand, body = significand ++ tail ∧
      Significand significand (digitsValue (whole ++ fraction) / 10 ^ fraction.length) := by
  obtain ⟨rfl, hdigits⟩ := eq_append_of_takeDigits hwhole
  rw [digitsValue_append_div]
  rcases eq_of_takeFraction hfraction with ⟨rfl, htenths⟩ | ⟨rfl, rfl⟩
  · by_cases hnone : whole = []
    · subst hnone
      have hsome : fraction ≠ [] := by simpa using hne
      refine ⟨'.' :: fraction, rfl, ?_⟩
      simpa [numeral] using Significand.fraction ⟨hsome, htenths⟩
    · exact ⟨whole ++ '.' :: fraction, by simp, .pointed ⟨hnone, hdigits⟩ htenths⟩
  · have hsome : whole ≠ [] := by simpa using hne
    refine ⟨whole, rfl, ?_⟩
    simpa [numeral] using Significand.whole ⟨hsome, hdigits⟩

/-! ## Literals -/

/-- The places after the point go from the exponent to the significand. -/
theorem toRat_of_parts (negative : Bool) (c n : ℕ) (k : ℤ) :
    toRat { negative, coefficient := c, exponent := k - n } =
      (if negative then -1 else 1) * (c / 10 ^ n) * 10 ^ k := by
  rw [toRat, zpow_sub₀ (by norm_num), zpow_natCast]
  ring

theorem denotes_of_parse? {d : Decimal} (h : parse? text = some d) : Denotes text d.toRat := by
  obtain ⟨sign, hsign, htext⟩ := exists_sign text
  rcases hwhole : takeDigits (takeSign text).2 with ⟨whole, after⟩
  rcases hfraction : takeFraction after with ⟨fraction, tail⟩
  simp only [parse?, hwhole, hfraction] at h
  split at h
  · contradiction
  · rename_i hne
    obtain ⟨k, hk, rfl⟩ := Option.map_eq_some_iff.1 h
    obtain ⟨significand, hbody, hsignificand⟩ :=
      exists_significand hwhole hfraction (eq_false_of_ne_true hne)
    have hdenotes := Denotes.literal hsign hsignificand (parseTail?_eq_some_iff.1 hk)
    rwa [← hbody, ← htext, ← toRat_of_parts] at hdenotes

theorem Denotes.exists_parse? (h : Denotes text q) : ∃ d, parse? text = some d ∧ d.toRat = q := by
  cases h with
  | @literal sign significand exponent negative x k hsign hsignificand hexponent =>
      obtain ⟨whole, fraction, after, hwhole, hfraction, hne, rfl⟩ :=
        hsignificand.exists_take hexponent.head?_eq
      refine ⟨_, ?_, toRat_of_parts negative (digitsValue (whole ++ fraction)) fraction.length k⟩
      simp only [parse?, takeSign_append hsign hsignificand.head?_eq, hwhole, hfraction, hne,
        parseTail?_eq_some_iff.2 hexponent]
      rfl

/-- A literal denotes one number. -/
theorem Denotes.unique {q' : ℚ} (h : Denotes text q) (h' : Denotes text q') : q = q' := by
  obtain ⟨d, hd, rfl⟩ := h.exists_parse?
  obtain ⟨d', hd', rfl⟩ := h'.exists_parse?
  rw [hd, Option.some.injEq] at hd'
  rw [hd']

end Decimal

end PostfixCalc
