import PostfixCalc.Proofs.Text.Words
import PostfixCalc.Token

/-!
# Tokens are solid words

A literal is made of few characters, and none of them is ever trimmed; the same
holds of the operator symbols.  Hence the tokens that mean something can be
written down with any white space between them, and the text divides into these
tokens again (`ofExpression_of_spaced`).  An expression that is not blank always
has tokens.
-/

namespace PostfixCalc

namespace Decimal

/-- The characters that literals are made of. -/
def isLiteralChar (c : Char) : Bool :=
  c.isDigit || c == '+' || c == '-' || c == '.' || c == 'e' || c == 'E'

theorem isLiteralChar_of_isDigit {c : Char} (h : c.isDigit = true) : isLiteralChar c = true := by
  simp [isLiteralChar, h]

/-- Literal characters come after the space and before the end of ASCII. -/
theorem toNat_of_isLiteralChar {c : Char} (h : isLiteralChar c = true) :
    0x20 < c.toNat ∧ c.toNat < 0x7F := by
  simp only [isLiteralChar, Bool.or_eq_true, beq_iff_eq] at h
  rcases h with ((((hdigit | rfl) | rfl) | rfl) | rfl) | rfl
  · have hrange : 48 ≤ c.toNat ∧ c.toNat ≤ 57 := by
      simpa [Char.isDigit, UInt32.le_iff_toNat_le] using hdigit
    omega
  all_goals decide

theorem not_isTrimmed_of_isLiteralChar {c : Char} (h : isLiteralChar c = true) :
    Text.isTrimmed c = false := by
  -- No blank of ASCII comes after the space.
  obtain ⟨hspace, hascii⟩ := toNat_of_isLiteralChar h
  simp only [Text.isTrimmed, Text.isWhiteSpace, Text.isSeparator, Bool.or_eq_false_iff,
    Bool.and_eq_false_iff, decide_eq_false_iff_not]
  omega

/-! Each part of the reader splits off literal characters only, so that a
character of the text is one of them or is still in the rest. -/

theorem mem_takeSign {text : List Char} {c : Char} (hc : c ∈ text) :
    isLiteralChar c = true ∨ c ∈ (takeSign text).2 := by
  unfold takeSign
  split
  · rcases List.mem_cons.1 hc with rfl | hc
    · exact .inl rfl
    · exact .inr hc
  · rcases List.mem_cons.1 hc with rfl | hc
    · exact .inl rfl
    · exact .inr hc
  · exact .inr hc

theorem mem_takeDigits {text : List Char} {c : Char} (hc : c ∈ text) :
    isLiteralChar c = true ∨ c ∈ (takeDigits text).2 := by
  rw [← List.takeWhile_append_dropWhile (p := Char.isDigit) (l := text)] at hc
  rcases List.mem_append.1 hc with hc | hc
  · exact .inl (isLiteralChar_of_isDigit (List.mem_takeWhile_imp hc))
  · exact .inr hc

theorem mem_takeFraction {text : List Char} {c : Char} (hc : c ∈ text) :
    isLiteralChar c = true ∨ c ∈ (takeFraction text).2 := by
  unfold takeFraction
  split
  · rcases List.mem_cons.1 hc with rfl | hc
    · exact .inl rfl
    · exact mem_takeDigits hc
  · exact .inr hc

theorem isLiteralChar_of_parseExponent? {text : List Char} (h : (parseExponent? text).isSome)
    {c : Char} (hc : c ∈ text) : isLiteralChar c = true := by
  rcases mem_takeSign hc with hc | hc
  · exact hc
  · simp only [parseExponent?] at h
    split at h
    · rename_i hdigits
      simp only [Bool.and_eq_true, List.all_eq_true] at hdigits
      exact isLiteralChar_of_isDigit (hdigits.2 c hc)
    · contradiction

theorem isLiteralChar_of_parseTail? {text : List Char} (h : (parseTail? text).isSome)
    {c : Char} (hc : c ∈ text) : isLiteralChar c = true := by
  cases text with
  | nil => contradiction
  | cons mark rest =>
      simp only [parseTail?] at h
      split at h
      · rename_i hmark
        rcases List.mem_cons.1 hc with rfl | hc
        · rcases hmark with rfl | rfl <;> rfl
        · exact isLiteralChar_of_parseExponent? h hc
      · contradiction

/-- A literal is made of literal characters. -/
theorem isLiteralChar_of_parse? {text : List Char} {d : Decimal} (h : parse? text = some d)
    {c : Char} (hc : c ∈ text) : isLiteralChar c = true := by
  simp only [parse?] at h
  split at h
  · contradiction
  · have htail := congrArg Option.isSome h
    rw [Option.isSome_map] at htail
    rcases mem_takeSign hc with hc | hc
    · exact hc
    · rcases mem_takeDigits hc with hc | hc
      · exact hc
      · rcases mem_takeFraction hc with hc | hc
        · exact hc
        · exact isLiteralChar_of_parseTail? htail hc

theorem isSolid_of_parse? {text : List Char} {d : Decimal} (h : parse? text = some d) :
    Text.IsSolid text := by
  constructor
  · intro hnil
    subst hnil
    contradiction
  · intro c hc
    exact not_isTrimmed_of_isLiteralChar (isLiteralChar_of_parse? h hc)

end Decimal

theorem Operator.isSolid_symbol (op : Operator) : Text.IsSolid op.symbol.toList := by
  have hall : ∀ op ∈ all, op.symbol.toList ≠ [] ∧
      op.symbol.toList.all (fun c => !Text.isTrimmed c) = true := by
    decide
  obtain ⟨hne, hkept⟩ := hall op (mem_all op)
  refine ⟨hne, fun c hc => ?_⟩
  simpa using List.all_eq_true.1 hkept c hc

theorem Operator.parse?_symbol (op : Operator) : Decimal.parse? op.symbol.toList = none := by
  have hall : ∀ op ∈ all, Decimal.parse? op.symbol.toList = none := by
    decide
  exact hall op (mem_all op)

namespace Token

/-- A token that is a number is a literal. -/
theorem exists_parse?_of_number? {token : String} {x : Binary64}
    (h : number? token = .ok (some x)) : ∃ d, Decimal.parse? token.toList = some d := by
  cases hparse : Decimal.parse? token.toList with
  | none =>
      rw [number?_of_not_literal hparse] at h
      simp at h
  | some d => exact ⟨d, rfl⟩

theorem isSolid_of_number? {token : String} {x : Binary64} (h : number? token = .ok (some x)) :
    Text.IsSolid token.toList := by
  obtain ⟨d, hd⟩ := exists_parse?_of_number? h
  exact Decimal.isSolid_of_parse? hd

/-- No operator symbol is a number. -/
theorem number?_symbol (op : Operator) : number? op.symbol = .ok none :=
  number?_of_not_literal op.parse?_symbol

/-! ## Dividing an expression -/

theorem ofExpression_of_ne_nil {text : String} (h : Text.trimChars text.toList ≠ []) :
    ofExpression (some text) =
      .ok ((Text.words (Text.trimChars text.toList)).map String.ofList) := by
  simp [ofExpression, h]

theorem eq_emptyExpression_of_ofExpression {expression : Option String} {e : EvalError}
    (h : ofExpression expression = .error e) : e = .emptyExpression := by
  cases expression with
  | none => simpa [ofExpression] using h.symm
  | some text =>
      by_cases htrim : Text.trimChars text.toList = []
      · simpa [ofExpression, htrim] using h.symm
      · rw [ofExpression_of_ne_nil htrim] at h
        contradiction

/-- An expression that is divided has a token at least. -/
theorem ne_nil_of_ofExpression {expression : Option String} {tokens : List String}
    (h : ofExpression expression = .ok tokens) : tokens ≠ [] := by
  cases expression with
  | none => simp [ofExpression] at h
  | some text =>
      by_cases htrim : Text.trimChars text.toList = []
      · simp [ofExpression, htrim] at h
      · rw [ofExpression_of_ne_nil htrim, Except.ok.injEq] at h
        obtain ⟨c, hc, hkept⟩ := Text.exists_mem_trimChars htrim
        have hwords := Text.words_ne_nil ⟨c, hc, Text.isWhiteSpace_of_not_isTrimmed hkept⟩
        rw [← h]
        simpa using hwords

/-- Words with white space between them are the tokens of that text, if trimming takes nothing
off its ends. -/
theorem ofExpression_of_words {tokens : List String} {text : String}
    (h : Text.Spaced (tokens.map String.toList) text.toList)
    (hwords : ∀ token ∈ tokens, Text.IsWord token.toList)
    (htrim : Text.trimChars text.toList = text.toList) : ofExpression (some text) = .ok tokens := by
  have hword : ∀ w ∈ tokens.map String.toList, Text.IsWord w := by
    simpa using hwords
  have hne : Text.trimChars text.toList ≠ [] := by
    rw [htrim]
    exact Text.spaced_ne_nil h fun w hw => (hword w hw).1
  rw [ofExpression_of_ne_nil hne, htrim, Text.words_of_spaced h hword]
  simp

/-- Solid tokens with white space between them are the tokens of that text. -/
theorem ofExpression_of_spaced {tokens : List String} {text : String}
    (h : Text.Spaced (tokens.map String.toList) text.toList)
    (htokens : ∀ token ∈ tokens, Text.IsSolid token.toList) :
    ofExpression (some text) = .ok tokens := by
  have hsolid : ∀ w ∈ tokens.map String.toList, Text.IsSolid w := by
    simpa using htokens
  exact ofExpression_of_words h (fun token htoken => (htokens token htoken).isWord)
    (Text.trimChars_of_spaced h hsolid)

end Token

end PostfixCalc
