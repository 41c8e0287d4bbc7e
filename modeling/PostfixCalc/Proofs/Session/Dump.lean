import PostfixCalc.Proofs.CommandLine.Rows
import PostfixCalc.Proofs.Session.Calculation
import PostfixCalc.Proofs.Session.Lines
import PostfixCalc.Proofs.Text.Quoted

/-!
# What a dump shows

Every token has a row (`dumpRow_eq`), so that no fault ends a dump: lines that have tokens
are shown as the rows of these, in order, and each line without tokens is reported
(`dump_eq`).  A row has three fields, whatever the token is (`fields_dumpText`), and the second
one quotes it, so that the token can be read off its row (`shownToken?_dumpText`).
-/

namespace PostfixCalc

namespace Session

theorem exists_dumpRow (token : String) : ∃ row, dumpRow token = .ok row := by
  obtain ⟨kind, hkind⟩ := Token.exists_kind token
  unfold dumpRow
  rw [hkind]
  exact ⟨_, rfl⟩

/-- The row of a token, which every token has. -/
def dumpText (token : String) : String :=
  match dumpRow token with
  | .ok row => row
  | .error _ => ""

theorem dumpRow_eq (token : String) : dumpRow token = .ok (dumpText token) := by
  obtain ⟨row, hrow⟩ := exists_dumpRow token
  simp [dumpText, hrow]

/-! ## The fields of a row -/

open Text

/-- The number of operands in the row of a token. -/
def arityText (token : String) : String :=
  match Operator.ofSymbol? token with
  | some op => toString op.arity
  | none => "None"

/-- The token that the second field of a row quotes. -/
def shownToken? (row : String) : Option String :=
  ((fields row)[1]?.bind fun field => unquote? field.toList).map String.ofList

variable {token : String} {kind : Token.Kind}

theorem dumpText_eq (h : Token.kind token = .ok kind) :
    dumpText token = s!"{kind.text}\t{quote token}\t{arityText token}" := by
  simp only [dumpText, dumpRow, h]
  rfl

theorem isPrintableText_kind (kind : Token.Kind) : IsPrintableText kind.text := by
  rw [isPrintableText_iff]
  cases kind <;> decide

theorem isPrintableText_quote (token : String) : IsPrintableText (quote token) := by
  intro c hc
  rw [quote, String.toList_ofList] at hc
  exact isPrintable_of_mem_quoteChars hc

theorem isPrintableText_arityText (token : String) : IsPrintableText (arityText token) := by
  rw [isPrintableText_iff, arityText]
  cases Operator.ofSymbol? token with
  | none => decide
  | some op =>
      cases op with
      | unary op => exact (by decide : (toString 1).toList.all isPrintable = true)
      | binary op => exact (by decide : (toString 2).toList.all isPrintable = true)

theorem fields_dumpText (h : Token.kind token = .ok kind) :
    fields (dumpText token) = [kind.text, quote token, arityText token] := by
  rw [dumpText_eq h]
  exact fields_row (isPrintableText_kind kind) (isPrintableText_quote token)
    (isPrintableText_arityText token)

theorem isRow_dumpText (token : String) : IsRow (dumpText token) := by
  obtain ⟨kind, hkind⟩ := Token.exists_kind token
  rw [dumpText_eq hkind]
  exact isRow_row (isPrintableText_kind kind) (isPrintableText_quote token)
    (isPrintableText_arityText token)

theorem unquote?_quote (token : String) : unquote? (quote token).toList = some token.toList := by
  rw [quote, String.toList_ofList]
  exact unquote?_quoteChars token.toList

/-- The token can be read off its row. -/
theorem shownToken?_dumpText (token : String) : shownToken? (dumpText token) = some token := by
  obtain ⟨kind, hkind⟩ := Token.exists_kind token
  simp [shownToken?, fields_dumpText hkind, unquote?_quote]

/-! ## Lines -/

/-- The rows of the tokens of a line. -/
def dumpRows (text : String) : List String :=
  match Token.ofExpression (some text) with
  | .ok tokens => tokens.map dumpText
  | .error _ => []

/-- The report of a line that has no tokens. -/
def dumpErrors (text : String) : List String :=
  match Token.ofExpression (some text) with
  | .ok _ => []
  | .error e => [e.message]

/-- Has the line no tokens? -/
def isRefused (text : String) : Bool :=
  match Token.ofExpression (some text) with
  | .ok _ => false
  | .error _ => true

/-- The tokens of a line, of which a line that is refused has none. -/
def tokensOf (text : String) : List String :=
  match Token.ofExpression (some text) with
  | .ok tokens => tokens
  | .error _ => []

theorem dumpRows_eq (text : String) : dumpRows text = (tokensOf text).map dumpText := by
  unfold dumpRows tokensOf
  cases Token.ofExpression (some text) <;> rfl

theorem dumpLine_eq (s : Session) (text : String) :
    dumpLine s text =
      { out := dumpRows text
        err := dumpErrors text
        failed := isRefused text
        fault := none
        session := s } := by
  unfold dumpLine dumpRows dumpErrors isRefused
  cases h : Token.ofExpression (some text) with
  | error e => rfl
  | ok tokens =>
      dsimp only
      rw [mapM_eq_map dumpRow_eq]
      rfl

theorem dumpLines_eq (s : Session) (texts : List String) :
    dumpLines s texts =
      { out := texts.flatMap dumpRows
        err := texts.flatMap dumpErrors
        failed := texts.any isRefused
        fault := none
        session := s } := by
  induction texts with
  | nil => rfl
  | cons text rest ih =>
      rw [dumpLines, dumpLine_eq, Reply.andThen_of_none rfl, ih]
      rfl

/-- A dump shows the rows of all tokens under its heading, reports the lines that have
none, and leaves the session as it is. -/
theorem dump_eq (s : Session) (texts : List String) :
    dump s texts =
      { out := dumpHeader :: texts.flatMap dumpRows
        err := texts.flatMap dumpErrors
        failed := texts.any isRefused
        fault := none
        session := s } := by
  rw [dump, Reply.andThen_of_none rfl]
  simp only [Reply.printed, Reply.silent, dumpLines_eq]
  rfl

end Session

end PostfixCalc
