import PostfixCalc.Proofs.Text.Runs
import PostfixCalc.Proofs.Token.Solid

/-!
# Tokens as maximal runs

The tokens of an expression are the maximal runs between white space of what
trimming leaves (`ofExpression_eq_ok_iff`).  Trimming takes more characters than
white space, so that the tokens are the maximal runs between trimmed characters
only if no information separator is left inside (`isRuns_isTrimmed_iff`); one that
is left stands in a token.
-/

namespace PostfixCalc

namespace Text

/-- The information separators are not white space. -/
theorem not_isWhiteSpace_of_isSeparator {c : Char} (h : isSeparator c = true) :
    isWhiteSpace c = false := by
  simp only [isSeparator, Bool.and_eq_true, decide_eq_true_eq] at h
  simp only [isWhiteSpace, Bool.or_eq_false_iff, Bool.and_eq_false_iff, decide_eq_false_iff_not]
  omega

theorem isTrimmed_of_isSeparator {c : Char} (h : isSeparator c = true) : isTrimmed c = true := by
  simp [isTrimmed, h]

/-- A text is trimmed away if and only if all of it is. -/
theorem trimChars_eq_nil_iff {text : List Char} :
    trimChars text = [] ↔ ∀ c ∈ text, isTrimmed c = true := by
  constructor
  · intro hnil c hc
    by_contra hkept
    exact trimChars_ne_nil ⟨c, hc, eq_false_of_ne_true hkept⟩ hnil
  · intro hall
    by_contra hne
    obtain ⟨c, hc, hkept⟩ := exists_mem_trimChars hne
    obtain ⟨front, back, htext, -, -⟩ := exists_ends_trimChars text
    have htrimmed := hall c (by rw [htext]; simp [hc])
    rw [hkept] at htrimmed
    contradiction

/-- Trimming a text keeps its runs between trimmed characters. -/
theorem IsRuns.of_trimChars {runs : List (List Char)} {text : List Char}
    (h : IsRuns isTrimmed runs (trimChars text)) : IsRuns isTrimmed runs text := by
  obtain ⟨front, back, htext, hfront, hback⟩ := exists_ends_trimChars text
  rw [htext]
  exact .blanks_append hfront (.append_blanks hback h)

/-- The runs between white space are those between trimmed characters if and only
if no separator is left after trimming. -/
theorem isRuns_isTrimmed_iff {runs : List (List Char)} {text : List Char}
    (h : IsRuns isWhiteSpace runs (trimChars text)) :
    IsRuns isTrimmed runs text ↔ ∀ c ∈ trimChars text, isSeparator c = false := by
  constructor
  · intro htrimmed c hc
    by_contra hsep
    rw [Bool.not_eq_false] at hsep
    -- The separator stands in a run, where no character that is trimmed should be.
    have hmem : c ∈ runs.flatten := by
      rw [h.flatten_eq]
      simp [hc, not_isWhiteSpace_of_isSeparator hsep]
    rw [htrimmed.flatten_eq] at hmem
    simp [isTrimmed_of_isSeparator hsep] at hmem
  · intro hnone
    refine .of_trimChars (h.congr fun c hc => ?_)
    simp [isTrimmed, hnone c hc]

end Text

namespace Token

open Text

variable {text : String} {tokens : List String}

theorem ofExpression_eq_error_iff :
    ofExpression (some text) = .error .emptyExpression ↔
      ∀ c ∈ text.toList, isTrimmed c = true := by
  rw [← trimChars_eq_nil_iff]
  by_cases htrim : trimChars text.toList = []
  · simp [ofExpression, htrim]
  · simp [ofExpression_of_ne_nil htrim, htrim]

/-- The tokens are the maximal runs between white space of what trimming leaves, if
it leaves anything. -/
theorem ofExpression_eq_ok_iff :
    ofExpression (some text) = .ok tokens ↔
      (∃ c ∈ text.toList, isTrimmed c = false) ∧
        IsRuns isWhiteSpace (tokens.map String.toList) (trimChars text.toList) := by
  by_cases htrim : trimChars text.toList = []
  · have hall := trimChars_eq_nil_iff.1 htrim
    refine iff_of_false ?_ ?_
    · simp [ofExpression, htrim]
    · rintro ⟨⟨c, hc, hkept⟩, -⟩
      rw [hall c hc] at hkept
      contradiction
  · have hkept : ∃ c ∈ text.toList, isTrimmed c = false := by
      simpa [trimChars_eq_nil_iff] using htrim
    rw [ofExpression_of_ne_nil htrim, Except.ok.injEq, and_iff_right hkept]
    constructor
    · rintro rfl
      simpa [Function.comp_def] using isRuns_words (trimChars text.toList)
    · intro hruns
      simp [words_of_isRuns hruns, Function.comp_def]

/-- Trimming an expression does not change its tokens. -/
theorem ofExpression_trim (text : String) :
    ofExpression (some (trim text)) = ofExpression (some text) := by
  simp only [ofExpression, trim, String.toList_ofList, trimChars_trimChars]

/-- A character of a token that trimming would take is a separator. -/
theorem isSeparator_of_mem_token (h : ofExpression (some text) = .ok tokens) {token : String}
    (htoken : token ∈ tokens) {c : Char} (hc : c ∈ token.toList) (htrimmed : isTrimmed c = true) :
    isSeparator c = true := by
  have hflat := (ofExpression_eq_ok_iff.1 h).2.flatten_eq
  have hmem : c ∈ (tokens.map String.toList).flatten :=
    List.mem_flatten.2 ⟨_, List.mem_map_of_mem htoken, hc⟩
  rw [hflat, List.mem_filter, Bool.not_eq_true'] at hmem
  simpa [isTrimmed, hmem.2] using htrimmed

/-- An expression is refused if and only if trimming takes all of it, and is else
divided into the maximal runs between white space of what trimming leaves.  These
are the maximal runs of the expression between characters that are trimmed if and
only if no information separator is left inside; one that is left stands in a
token, and it is all that a token can have of such characters. -/
theorem ofExpression_maximal_runs (text : String) :
    (ofExpression (some text) = .error .emptyExpression ↔
      ∀ c ∈ text.toList, isTrimmed c = true) ∧
    (∀ tokens, ofExpression (some text) = .ok tokens ↔
      (∃ c ∈ text.toList, isTrimmed c = false) ∧
        IsRuns isWhiteSpace (tokens.map String.toList) (trimChars text.toList)) ∧
    ∀ tokens, ofExpression (some text) = .ok tokens →
      (IsRuns isTrimmed (tokens.map String.toList) text.toList ↔
        ∀ c ∈ trimChars text.toList, isSeparator c = false) ∧
      ∀ token ∈ tokens, ∀ c ∈ token.toList, isTrimmed c = true → isSeparator c = true := by
  refine ⟨ofExpression_eq_error_iff, fun tokens => ofExpression_eq_ok_iff, ?_⟩
  intro tokens htokens
  refine ⟨isRuns_isTrimmed_iff (ofExpression_eq_ok_iff.1 htokens).2, ?_⟩
  intro token htoken c hc
  exact isSeparator_of_mem_token htokens htoken hc

/-- A separator between two digits is trimmed at neither end and divides nothing,
although the maximal runs between trimmed characters are the two digits. -/
theorem ofExpression_maximal_runs_separator :
    ofExpression (some "3\x1c4") = .ok ["3\x1c4"] ∧
      ¬ IsRuns isTrimmed [['3', '\x1c', '4']] "3\x1c4".toList ∧
      IsRuns isTrimmed [['3'], ['4']] "3\x1c4".toList := by
  have htokens : ofExpression (some "3\x1c4") = .ok ["3\x1c4"] := by
    decide +kernel
  obtain ⟨-, -, hruns⟩ := ofExpression_maximal_runs "3\x1c4"
  obtain ⟨hiff, -⟩ := hruns _ htokens
  have hsep : isTrimmed '\x1c' = true := by decide
  have hthree : isTrimmed '3' = false := by decide
  have hfour : isTrimmed '4' = false := by decide
  refine ⟨htokens, fun h => ?_, ?_⟩
  · have hnone := hiff.1 h '\x1c' (by decide +kernel)
    contradiction
  · have hempty : ∀ c ∈ ([] : List Char), isTrimmed c = true := by
      simp
    have hgap : ∀ c ∈ ['\x1c'], isTrimmed c = true := by
      simpa using hsep
    have hrun : ∀ c ∈ ['4'], isTrimmed c = false := by
      simpa using hfour
    have hlast : IsRuns isTrimmed [['4']] ['\x1c', '4'] :=
      .cons hgap (by simp) hrun (by simp) (.nil hempty)
    show IsRuns isTrimmed [['3'], ['4']] ([] ++ (['3'] ++ ['\x1c', '4']))
    exact .cons hempty (by simp) (by simpa using hthree) (by simpa using hsep) hlast

end Token

end PostfixCalc
