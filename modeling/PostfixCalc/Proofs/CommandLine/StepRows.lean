import Mathlib.Data.List.Forall2
import PostfixCalc.Proofs.CommandLine.Rows
import PostfixCalc.Proofs.Session.Calculation
import PostfixCalc.Proofs.Token.Display

/-!
# Rows of steps are read back

A token that is fed is a literal or the symbol of an operator, and a number is displayed as a
literal or by its name: all of these are visible, that is printable and without spaces
(`Feeds.isVisible`, `isVisible_displayText`).  So the row of a step has three fields, and the one
that shows the stack splits at its spaces into one text for each number (`Feeds.shownBy`).  What
holds of one token holds of all tokens of an expression (`FeedsAll.shownBy`), and the last of
them leaves the value alone, which is printed after the rows (`step_rows_decode`).
-/

namespace PostfixCalc

namespace Text

/-- The text is not empty, and each of its characters is printable and is no space. -/
structure IsVisible (text : String) : Prop where
  ne_empty : text ≠ ""
  isPrintableText : IsPrintableText text
  not_mem_space : ' ' ∉ text.toList

theorem isVisible_iff {text : String} : IsVisible text ↔
    text ≠ "" ∧ text.toList.all isPrintable = true ∧ ' ' ∉ text.toList := by
  rw [← isPrintableText_iff]
  exact ⟨fun ⟨hne, h, hspace⟩ => ⟨hne, h, hspace⟩, fun ⟨hne, h, hspace⟩ => ⟨hne, h, hspace⟩⟩

theorem isPrintable_of_isLiteralChar {c : Char} (h : Decimal.isLiteralChar c = true) :
    isPrintable c = true := by
  obtain ⟨hspace, hascii⟩ := Decimal.toNat_of_isLiteralChar h
  simp [isPrintable, hascii, hspace.le]

/-- Literals are visible. -/
theorem isVisible_of_parse? {text : String} {d : Decimal}
    (h : Decimal.parse? text.toList = some d) : IsVisible text where
  ne_empty := by
    rintro rfl
    contradiction
  isPrintableText := fun _ hc =>
    isPrintable_of_isLiteralChar (Decimal.isLiteralChar_of_parse? h hc)
  not_mem_space := fun hspace => by
    have hliteral := Decimal.isLiteralChar_of_parse? h hspace
    contradiction

theorem isVisible_of_number? {text : String} {x : Binary64}
    (h : Token.number? text = .ok (some x)) : IsVisible text := by
  obtain ⟨d, hd⟩ := Token.exists_parse?_of_number? h
  exact isVisible_of_parse? hd

theorem isVisible_symbol (op : Operator) : IsVisible op.symbol := by
  have hall : ∀ op ∈ Operator.all, op.symbol ≠ "" ∧ op.symbol.toList.all isPrintable = true ∧
      ' ' ∉ op.symbol.toList := by
    decide
  exact isVisible_iff.2 (hall op (Operator.mem_all op))

end Text

open Text

/-! ## Numbers -/

/-- The text is a number that is numerically equal to the given one, or the name of a number that
is not finite. -/
inductive ReadsAs : String → Binary64 → Prop
  | finite {text : String} {x y : Binary64} (hx : x.isFinite = true)
      (h : Token.number? text = .ok (some y)) (heq : y.numEq x = true) : ReadsAs text x
  | infinity : ReadsAs "inf" (.infinity false)
  | negativeInfinity : ReadsAs "-inf" (.infinity true)
  | nan : ReadsAs "nan" .nan

namespace Binary64

theorem displayed_displayed (x : Binary64) : x.displayed.displayed = x.displayed := by
  by_cases hx : x = zero true
  · rw [hx, displayed_zero, displayed_zero]
  · rw [displayed, displayed, if_neg hx, if_neg hx]

theorem isFinite_displayed {x : Binary64} (hx : x.isFinite = true) :
    x.displayed.isFinite = true := by
  unfold displayed
  split
  · rfl
  · exact hx

/-- Every number is read from its text for display. -/
theorem readsAs_displayText (x : Binary64) : ReadsAs x.displayText x := by
  cases x with
  | nan => exact .nan
  | infinity negative =>
      cases negative with
      | false => exact .infinity
      | true => exact .negativeInfinity
  | finite negative m =>
      have hfinite : (finite negative m).isFinite = true := rfl
      refine .finite hfinite (Token.number?_of_display hfinite (display_eq _)) ?_
      rw [numEq_iff_displayed (isFinite_displayed hfinite) hfinite, displayed_displayed]

end Binary64

theorem ReadsAs.isVisible {text : String} {x : Binary64} (h : ReadsAs text x) :
    IsVisible text := by
  cases h with
  | finite _ h => exact isVisible_of_number? h
  | infinity => exact isVisible_iff.2 (by decide)
  | negativeInfinity => exact isVisible_iff.2 (by decide)
  | nan => exact isVisible_iff.2 (by decide)

theorem Binary64.isVisible_displayText (x : Binary64) : IsVisible x.displayText :=
  x.readsAs_displayText.isVisible

/-! ## Stacks -/

namespace Session

/-- The texts of numbers with a space between each two of them. -/
def stackText (numbers : List Binary64) : String :=
  " ".intercalate (numbers.map Binary64.displayText)

variable {numbers : List Binary64}

theorem rowText_eq (step : Step) :
    rowText step = s!"{step.token}\t{stackText step.stack}\t{step.action}" :=
  rfl

theorem parts_stackText (h : numbers ≠ []) :
    parts ' ' (stackText numbers) = numbers.map Binary64.displayText := by
  refine parts_of_intercalate (by simpa using h) ?_ ?_
  · rw [stackText, String.toList_intercalate]
    rfl
  · intro text htext
    obtain ⟨x, -, rfl⟩ := List.mem_map.1 htext
    exact x.isVisible_displayText.not_mem_space

theorem stackText_ne_empty (h : numbers ≠ []) : stackText numbers ≠ "" := by
  intro hempty
  have hparts := parts_stackText h
  rw [hempty, parts_of_not_mem (by simp)] at hparts
  have hmem : "" ∈ numbers.map Binary64.displayText := by
    simp [← hparts]
  obtain ⟨x, -, hx⟩ := List.mem_map.1 hmem
  exact x.isVisible_displayText.ne_empty hx

theorem isPrintableText_stackText (numbers : List Binary64) :
    IsPrintableText (stackText numbers) := by
  have hspace : IsPrintableText " " := isPrintableText_iff.2 (by decide)
  refine isPrintableText_intercalate hspace fun text htext => ?_
  obtain ⟨x, -, rfl⟩ := List.mem_map.1 htext
  exact x.isVisible_displayText.isPrintableText

/-! ## Steps -/

/-- What the row of a step needs to be read back. -/
structure IsReadable (step : Step) : Prop where
  token : IsVisible step.token
  stack : step.stack ≠ []
  action : IsPrintableText step.action

/-- The row shows the step: its token, the stack after it and its action.  Between single spaces
stand the texts that the numbers on the stack are read from, bottom first. -/
structure ShownBy (step : Step) (row : String) : Prop where
  isRow : IsRow row
  fields_eq : ∃ stack, fields row = [step.token, stack, step.action] ∧ stack ≠ "" ∧
    List.Forall₂ ReadsAs (parts ' ' stack) step.stack

variable {step : Step}

theorem IsReadable.fields_rowText (h : IsReadable step) :
    fields (rowText step) = [step.token, stackText step.stack, step.action] := by
  rw [rowText_eq]
  exact fields_row h.token.isPrintableText (isPrintableText_stackText step.stack) h.action

theorem IsReadable.shownBy (h : IsReadable step) : ShownBy step (rowText step) where
  isRow := by
    rw [rowText_eq]
    exact isRow_row h.token.isPrintableText (isPrintableText_stackText step.stack) h.action
  fields_eq := by
    refine ⟨stackText step.stack, h.fields_rowText, stackText_ne_empty h.stack, ?_⟩
    rw [parts_stackText h.stack, List.forall₂_map_left_iff]
    exact List.forall₂_same.2 fun x _ => x.readsAs_displayText

end Session

namespace Machine

open Session

variable {token action : String} {tokens : List String} {stack stack' : List Binary64}
  {steps : List Step}

/-- A token that is fed is visible, because it is a literal or the symbol of an operator. -/
theorem Feeds.isVisible (h : Feeds token stack (.fed stack' action)) : IsVisible token := by
  cases h with
  | number h => exact isVisible_of_number? h
  | unary hop h =>
      rw [← Operator.symbol_of_ofSymbol? hop]
      exact isVisible_symbol _
  | binary hop h =>
      rw [← Operator.symbol_of_ofSymbol? hop]
      exact isVisible_symbol _

theorem Feeds.isPrintableText_action (h : Feeds token stack (.fed stack' action)) :
    IsPrintableText action := by
  have hnumber (x : Binary64) := x.isVisible_displayText.isPrintableText
  have hsymbol (op : Operator) := (isVisible_symbol op).isPrintableText
  have happly : IsPrintableText "Apply " := isPrintableText_iff.2 (by decide)
  have hspace : IsPrintableText " " := isPrintableText_iff.2 (by decide)
  cases h with
  | number h =>
      have hpush : IsPrintableText "Push " := isPrintableText_iff.2 (by decide)
      exact isPrintableText_append hpush (isVisible_of_number? h).isPrintableText
  | @unary op only value rest hop h =>
      have hto : IsPrintableText " to " := isPrintableText_iff.2 (by decide)
      have hbefore := isPrintableText_append happly (hsymbol (.unary op))
      exact isPrintableText_append (isPrintableText_append hbefore hto) (hnumber only)
  | @binary op left right value rest hop h =>
      have hleft := isPrintableText_append happly (hnumber left)
      have hbefore := isPrintableText_append (isPrintableText_append hleft hspace)
        (hsymbol (.binary op))
      exact isPrintableText_append (isPrintableText_append hbefore hspace) (hnumber right)

theorem Feeds.isReadable (h : Feeds token stack (.fed stack' action)) :
    IsReadable (stepOf token stack' action) where
  token := h.isVisible
  stack := by simpa [stepOf] using h.ne_nil
  action := h.isPrintableText_action

theorem FeedsAll.isReadable (h : FeedsAll stack tokens stack' steps) :
    ∀ step ∈ steps, IsReadable step := by
  induction h with
  | nil => simp
  | cons h _ ih => exact List.forall_mem_cons.2 ⟨h.isReadable, ih⟩

/-- The last row shows nothing but the value that the tokens leave. -/
theorem FeedsAll.exists_getLast?_rowText {x : Binary64} (h : FeedsAll stack tokens [x] steps)
    (hne : tokens ≠ []) : ∃ row token action, (steps.map rowText).getLast? = some row ∧
      fields row = [token, x.displayText, action] := by
  obtain ⟨step, hlast, hstack⟩ := Option.map_eq_some_iff.1 (h.getLast?_stack hne)
  have hstep := h.isReadable step (List.mem_of_getLast? hlast)
  refine ⟨rowText step, step.token, step.action, ?_, ?_⟩
  · rw [List.getLast?_map, hlast, Option.map_some]
  · rw [hstep.fields_rowText, hstack]
    rfl

end Machine

/-! ## Calculations -/

namespace CommandLine

open Machine Session

variable {s : Session} {expression : String} {x : Binary64}

/-- Where steps are shown, the calculation of an expression prints one row for each token and then
its value, each on a line of its own.  A row has three fields: the token, the stack after it,
whose numbers are read from the texts between its spaces, bottom first, and the action.  In the
last row the stack is a single text, and this is the text of the value. -/
theorem step_rows_decode (settings : Settings) (hshow : s.showSteps = true)
    (h : evaluate (some expression) = .ok x) :
    ∃ steps rows result, trace (some expression) = .ok steps ∧
      Token.ofExpression (some expression) = .ok (steps.map Step.token) ∧
      (calculate settings s expression).out = rows ++ [result] ∧
      splitLines (printedText (rows ++ [result])) = rows ++ [result] ++ [""] ∧
      List.Forall₂ ShownBy steps rows ∧ ReadsAs result x ∧
      ∃ row token action, rows.getLast? = some row ∧ fields row = [token, result, action] ∧
        parts ' ' result = [result] := by
  obtain ⟨tokens, steps, htokens, hfeeds⟩ := exists_feedsAll_of_evaluate h
  have hjournal : journal (some expression) = steps := journal_of_runs (.value htokens hfeeds)
  have hvalue := x.isVisible_displayText
  obtain ⟨row, token, action, hlast, hfields⟩ :=
    hfeeds.exists_getLast?_rowText (Token.ne_nil_of_ofExpression htokens)
  refine ⟨steps, steps.map rowText, x.displayText, trace_of_runs (.value htokens hfeeds), ?_, ?_,
    ?_, ?_, x.readsAs_displayText, row, token, action, hlast, hfields,
    parts_of_not_mem hvalue.not_mem_space⟩
  · rw [hfeeds.map_token, htokens]
  · rw [calculate_of_value h, shownRows, if_pos hshow, hjournal]
  · refine splitLines_printedText fun item hitem => ?_
    rcases List.mem_append.1 hitem with hrow | hresult
    · obtain ⟨step, hstep, rfl⟩ := List.mem_map.1 hrow
      exact (hfeeds.isReadable step hstep).shownBy.isRow.not_mem_lineFeed
    · rw [List.mem_singleton.1 hresult]
      exact hvalue.isPrintableText.not_mem (by decide)
  · rw [List.forall₂_map_right_iff, List.forall₂_same]
    exact fun step hstep => (hfeeds.isReadable step hstep).shownBy

/-- Blanks of several kinds stand around the tokens of a quotient of a negative zero and an
infinite number.  The zero is shown without its sign, and reads as a number equal to it. -/
theorem step_rows_decode_zero :
    let expression := "\x1c0\u3000-1 *\t10  400 ^ /\n"
    let settings : Settings := { verbose := false, clock := TimeOfDay.ofSeconds }
    let s : Session := { Session.new with showSteps := true }
    let rows := ["0\t0\tPush 0", "-1\t0 -1\tPush -1", "*\t0\tApply 0 * -1", "10\t0 10\tPush 10",
      "400\t0 10 400\tPush 400", "^\t0 inf\tApply 10 ^ 400", "/\t0\tApply 0 / inf"]
    evaluate (some expression) = .ok (.zero true) ∧
      (calculate settings s expression).out = rows ++ ["0"] ∧
      (∃ steps, trace (some expression) = .ok steps ∧ List.Forall₂ ShownBy steps rows) ∧
      ReadsAs "0" (.zero true) := by
  intro expression settings s rows
  have hvalue : evaluate (some expression) = .ok (.zero true) := by
    decide +kernel
  have hout : (calculate settings s expression).out = rows ++ ["0"] := by
    decide +kernel
  obtain ⟨steps, shown, result, htrace, -, hshown, -, hrows, hreads, -⟩ :=
    step_rows_decode settings (s := s) rfl hvalue
  obtain ⟨rfl, hresult⟩ := List.append_inj' (hout.symm.trans hshown) rfl
  rw [← List.singleton_inj.1 hresult] at hreads
  exact ⟨hvalue, hout, ⟨steps, htrace, hrows⟩, hreads⟩

end CommandLine

end PostfixCalc
