import PostfixCalc.Proofs.Token.Solid

/-!
# Kinds of tokens

Every token has one kind, which is told by its value as a number and by the operator that it is
the symbol of.  The order in which the two are asked for does not matter: no symbol of an
operator is a literal, of whatever size (`ofSymbol?_of_parse?`).
-/

namespace PostfixCalc

namespace Token

variable {token : String}

/-- A literal is the symbol of no operator, also where it is too large for a number. -/
theorem ofSymbol?_of_parse? {d : Decimal} (h : Decimal.parse? token.toList = some d) :
    Operator.ofSymbol? token = none := by
  cases hop : Operator.ofSymbol? token with
  | none => rfl
  | some op =>
      rw [← Operator.symbol_of_ofSymbol? hop, Operator.parse?_symbol] at h
      contradiction

theorem number?_of_ofSymbol? {op : Operator} (hop : Operator.ofSymbol? token = some op) :
    number? token = .ok none := by
  rw [← Operator.symbol_of_ofSymbol? hop]
  exact number?_symbol op

theorem kind_of_number? {value : Binary64} (h : number? token = .ok (some value)) :
    kind token = .ok .number := by
  simp [kind, h, bind, Except.bind, pure, Except.pure]

theorem kind_of_ofSymbol? {op : Operator} (hop : Operator.ofSymbol? token = some op) :
    kind token = .ok .operator := by
  simp [kind, number?_of_ofSymbol? hop, hop, bind, Except.bind, pure, Except.pure]

theorem kind_of_unknown (h : number? token = .ok none) (hop : Operator.ofSymbol? token = none) :
    kind token = .ok .invalid := by
  simp [kind, h, hop, bind, Except.bind, pure, Except.pure]

/-- A token is a number, an operator, or neither. -/
theorem cases_of_token (token : String) :
    (∃ x, number? token = .ok (some x)) ∨ (∃ op, Operator.ofSymbol? token = some op) ∨
      number? token = .ok none ∧ Operator.ofSymbol? token = none := by
  obtain ⟨value, hvalue⟩ := exists_number? token
  cases value with
  | some x => exact .inl ⟨x, hvalue⟩
  | none =>
      cases hop : Operator.ofSymbol? token with
      | some op => exact .inr (.inl ⟨op, rfl⟩)
      | none => exact .inr (.inr ⟨hvalue, rfl⟩)

theorem exists_kind (token : String) : ∃ kind, Token.kind token = .ok kind := by
  rcases cases_of_token token with ⟨x, h⟩ | ⟨op, hop⟩ | ⟨h, hop⟩
  · exact ⟨_, kind_of_number? h⟩
  · exact ⟨_, kind_of_ofSymbol? hop⟩
  · exact ⟨_, kind_of_unknown h hop⟩

theorem kind_eq_number_iff :
    kind token = .ok .number ↔ ∃ x, number? token = .ok (some x) := by
  refine ⟨fun hkind => ?_, fun ⟨x, h⟩ => kind_of_number? h⟩
  rcases cases_of_token token with h | ⟨op, hop⟩ | ⟨h, hop⟩
  · exact h
  · rw [kind_of_ofSymbol? hop] at hkind
    contradiction
  · rw [kind_of_unknown h hop] at hkind
    contradiction

theorem kind_eq_operator_iff :
    kind token = .ok .operator ↔ ∃ op, Operator.ofSymbol? token = some op := by
  refine ⟨fun hkind => ?_, fun ⟨op, hop⟩ => kind_of_ofSymbol? hop⟩
  rcases cases_of_token token with ⟨x, h⟩ | hop | ⟨h, hop⟩
  · rw [kind_of_number? h] at hkind
    contradiction
  · exact hop
  · rw [kind_of_unknown h hop] at hkind
    contradiction

theorem kind_eq_invalid_iff :
    kind token = .ok .invalid ↔
      number? token = .ok none ∧ Operator.ofSymbol? token = none := by
  refine ⟨fun hkind => ?_, fun ⟨h, hop⟩ => kind_of_unknown h hop⟩
  rcases cases_of_token token with ⟨x, h⟩ | ⟨op, hop⟩ | hnone
  · rw [kind_of_number? h] at hkind
    contradiction
  · rw [kind_of_ofSymbol? hop] at hkind
    contradiction
  · exact hnone

end Token

end PostfixCalc
