import Mathlib.Data.List.TakeWhile
import PostfixCalc.Text.Digit

/-!
# Digits that spell no number

There are more digits than decimal ones, and only so many decimal ones are
accepted in a number.  Reading a whole number fails on these two counts and on no
other, as long as there is anything to read (`readWhole_of_spells`,
`exists_readWhole_error_of_spellsNone`).
-/

namespace PostfixCalc

namespace Text

/-- The digits spell no whole number: one of them is not decimal, or there are
more than are accepted. -/
def SpellsNone (digits : List Char) : Prop :=
  (∃ c ∈ digits, decimalValue? c = none) ∨ Fault.maxDigits < digits.length

/-- Is the text made up of digits of any kind? -/
def IsNumeric (text : List Char) : Prop :=
  text ≠ [] ∧ ∀ c ∈ text, isDigit c = true

instance (digits : List Char) : Decidable (SpellsNone digits) :=
  decidable_of_iff
    ((digits.any fun c => (decimalValue? c).isNone) = true ∨ Fault.maxDigits < digits.length)
    (by simp [SpellsNone])

instance (text : List Char) : Decidable (IsNumeric text) :=
  decidable_of_iff (text ≠ [] ∧ text.all isDigit = true) (by simp [IsNumeric])

theorem takeWhile_decimal {text : List Char} (h : ∀ c ∈ text, decimalValue? c ≠ none) :
    (text.takeWhile fun c => (decimalValue? c).isSome) = text := by
  rw [List.takeWhile_eq_self_iff]
  intro c hc
  exact Option.isSome_iff_ne_none.2 (h c hc)

theorem length_takeWhile_decimal_ne {text : List Char} (h : ∃ c ∈ text, decimalValue? c = none) :
    (text.takeWhile fun c => (decimalValue? c).isSome).length ≠ text.length := by
  intro hlen
  have hall := (List.takeWhile_prefix (fun c => (decimalValue? c).isSome)).eq_of_length hlen
  rw [List.takeWhile_eq_self_iff] at hall
  obtain ⟨c, hc, hnone⟩ := h
  have hsome := hall c hc
  simp [hnone] at hsome

theorem readWhole_of_spells {text : List Char} (hne : text ≠ []) (h : ¬ SpellsNone text) :
    readWhole text = .ok (decimalNumber text) := by
  have hdecimal : ∀ c ∈ text, decimalValue? c ≠ none := by
    intro c hc hnone
    exact h (.inl ⟨c, hc, hnone⟩)
  have hlen : ¬ Fault.maxDigits < text.length := fun hlen => h (.inr hlen)
  simp [readWhole, takeWhile_decimal hdecimal, hlen, hne]

theorem exists_readWhole_error_of_spellsNone {text : List Char} (h : SpellsNone text) :
    ∃ f, readWhole text = .error f := by
  by_cases hdecimal : ∃ c ∈ text, decimalValue? c = none
  · have hlen := length_takeWhile_decimal_ne hdecimal
    by_cases hmany : Fault.maxDigits < (text.takeWhile fun c => (decimalValue? c).isSome).length
    · exact ⟨_, by simp only [readWhole, if_pos hmany]; rfl⟩
    · exact ⟨_, by simp only [readWhole, if_neg hmany]; rw [if_neg (by simp [hlen])]⟩
  · have hall : ∀ c ∈ text, decimalValue? c ≠ none := by
      intro c hc hnone
      exact hdecimal ⟨c, hc, hnone⟩
    have hmany : Fault.maxDigits < text.length := h.resolve_left hdecimal
    exact ⟨_, by simp only [readWhole, takeWhile_decimal hall, if_pos hmany]; rfl⟩

end Text

end PostfixCalc
