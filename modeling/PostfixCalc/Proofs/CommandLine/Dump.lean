import Mathlib.Data.List.Forall2
import PostfixCalc.Proofs.Session.Dump

/-!
# Dumps are unambiguous

A run that dumps tokens prints a heading and one row for each token of its lines, in order
(`perform_of_dump`).  Neither the heading nor a row has a line break in it, so that these are
the lines of what is printed (`splitLines_dump`), and each token can be read off its line
(`shownTokens_dump`).  A prompt that nobody answers is all that can stand after the rows; it
betrays itself by its carriage return, which no row has (`return_mem_iff`), and a run that leaves
one has no tokens.
-/

namespace PostfixCalc

namespace CommandLine

open Session Text

/-- The row shows the token: its kind, the token in quotes that read back as the token, and its
number of operands if it is an operator. -/
structure Shows (token row : String) : Prop where
  isRow : IsRow row
  fields_eq : ∃ kind, Token.kind token = .ok kind ∧
    fields row = [kind.text, quote token, arityText token]
  reads_back : unquote? (quote token).toList = some token.toList

/-- The tokens that are shown by the lines of a text. -/
def shownTokens (text : String) : List String :=
  (splitLines text).filterMap shownToken?

variable {clock clock' : Nat → TimeOfDay} {s s' : Session} {o o' : Options} {input input' : Input}

theorem shows_dumpText (token : String) : Shows token (dumpText token) where
  isRow := isRow_dumpText token
  fields_eq := by
    obtain ⟨kind, hkind⟩ := Token.exists_kind token
    exact ⟨kind, hkind, fields_dumpText hkind⟩
  reads_back := unquote?_quote token

theorem isRow_dumpHeader : IsRow dumpHeader := by
  have hall : dumpHeader.toList.all (fun c => c == '\t' || isPrintable c) = true := by
    decide
  simpa [IsRow] using hall

/-! ## What is printed -/

/-- The tokens of the lines of a run. -/
def dumpedTokens (o : Options) (input : Input) : List String :=
  (lines o input).flatMap tokensOf

/-- The heading and the rows of some tokens. -/
def dumpOf (tokens : List String) : List String :=
  dumpHeader :: tokens.map dumpText

theorem perform_of_dump (ho : o.action = .dumpTokens) :
    (perform clock s o input).out = dumpOf (dumpedTokens o input) ++ unanswered o input := by
  have hrows : (lines o input).flatMap dumpRows = (dumpedTokens o input).map dumpText := by
    simp only [dumpedTokens, List.map_flatMap, ← dumpRows_eq]
  simp only [perform, ho, dump_eq, Report.ofReply, hrows]
  rfl

theorem isRow_of_mem_dumpOf {tokens : List String} {row : String} (h : row ∈ dumpOf tokens) :
    IsRow row := by
  rcases List.mem_cons.1 h with rfl | h
  · exact isRow_dumpHeader
  · obtain ⟨token, -, rfl⟩ := List.mem_map.1 h
    exact isRow_dumpText token

theorem splitLines_dump (tokens : List String) :
    splitLines (printedText (dumpOf tokens)) = dumpOf tokens ++ [""] :=
  splitLines_printedText fun _ hrow => (isRow_of_mem_dumpOf hrow).not_mem_lineFeed

theorem shownTokens_dump (tokens : List String) :
    shownTokens (printedText (dumpOf tokens)) = tokens := by
  have hheader : shownToken? dumpHeader = none := by decide +kernel
  have hend : shownToken? "" = none := by decide +kernel
  have hrows : (tokens.map dumpText).filterMap shownToken? = tokens := by
    rw [List.filterMap_map]
    simp [shownToken?_dumpText]
  rw [shownTokens, splitLines_dump, dumpOf, List.cons_append, List.filterMap_cons_none hheader,
    List.filterMap_append, hrows, List.filterMap_cons_none hend]
  simp

/-! ## Prompts that nobody answers -/

/-- A run that leaves its prompt unanswered has no lines. -/
theorem lines_of_unanswered (h : unanswered o input ≠ []) : lines o input = [] := by
  have hprompts : prompts o input.terminal = true ∧ input.typing = none := by
    unfold unanswered at h
    split at h
    · rename_i hasks
      simpa using hasks
    · exact absurd rfl h
  have hexpressions : o.expressions = none := by
    have hboth := hprompts.1
    simp only [prompts, Bool.and_eq_true, Option.isNone_iff_eq_none] at hboth
    exact hboth.1
  simp [lines, hexpressions, hprompts, streamed]

theorem dumpedTokens_of_unanswered (h : unanswered o input ≠ []) : dumpedTokens o input = [] := by
  rw [dumpedTokens, lines_of_unanswered h, List.flatMap_nil]

theorem exists_return_of_unanswered (h : unanswered o input ≠ []) :
    ∃ item ∈ unanswered o input, '\r' ∈ item.toList := by
  unfold unanswered at h ⊢
  split at h
  · rename_i hasks
    rw [if_pos hasks]
    exact input.leftover.exists_return _
  · exact absurd rfl h

theorem mem_printedText {c : Char} {items : List String} :
    c ∈ (printedText items).toList ↔ ∃ item ∈ items, c ∈ item.toList ∨ c = '\n' := by
  simp [printedText, String.toList_join]

/-- The carriage return of a prompt stands in no row. -/
theorem return_mem_iff (clock : Nat → TimeOfDay) (s : Session) (ho : o.action = .dumpTokens) :
    '\r' ∈ (printedText (perform clock s o input).out).toList ↔ unanswered o input ≠ [] := by
  rw [perform_of_dump ho, mem_printedText]
  constructor
  · rintro ⟨item, hitem, hmem | hmem⟩ hnone
    · rw [hnone, List.append_nil] at hitem
      rcases isRow_of_mem_dumpOf hitem _ hmem with htab | hprintable
      · contradiction
      · contradiction
    · contradiction
  · intro h
    obtain ⟨item, hitem, hmem⟩ := exists_return_of_unanswered h
    exact ⟨item, List.mem_append_right _ hitem, .inl hmem⟩

/-- Runs that print the same have the same tokens. -/
theorem dumpedTokens_congr (ho : o.action = .dumpTokens) (ho' : o'.action = .dumpTokens)
    (h : printedText (perform clock s o input).out =
      printedText (perform clock' s' o' input').out) :
    dumpedTokens o input = dumpedTokens o' input' := by
  have hreturn : unanswered o input ≠ [] ↔ unanswered o' input' ≠ [] := by
    rw [← return_mem_iff clock s ho, h, return_mem_iff clock' s' ho']
  by_cases hprompt : unanswered o input = []
  · have hprompt' : unanswered o' input' = [] := by
      by_contra hne
      exact hreturn.2 hne hprompt
    rw [perform_of_dump ho, perform_of_dump ho', hprompt, hprompt', List.append_nil,
      List.append_nil] at h
    rw [← shownTokens_dump (dumpedTokens o input), h, shownTokens_dump]
  · rw [dumpedTokens_of_unanswered hprompt, dumpedTokens_of_unanswered (hreturn.1 hprompt)]

/-- A run that dumps tokens prints the heading and then one row for each token of its lines, in
order; only a run without lines leaves a prompt that nobody answers after these.  Each of them is
one line of what is printed and has the three fields of its token, of which the second reads back
as the token, whatever characters it has.  So runs with different tokens never print the same. -/
theorem dump_unambiguous :
    (∀ (clock : Nat → TimeOfDay) (s : Session) (o : Options) (input : Input),
      o.action = .dumpTokens →
      ∃ rows, (perform clock s o input).out = dumpHeader :: rows ++ unanswered o input ∧
        (unanswered o input ≠ [] → lines o input = []) ∧
        splitLines (printedText (dumpHeader :: rows)) = dumpHeader :: rows ++ [""] ∧
        List.Forall₂ Shows (dumpedTokens o input) rows) ∧
    ∀ (clock clock' : Nat → TimeOfDay) (s s' : Session) (o o' : Options) (input input' : Input),
      o.action = .dumpTokens → o'.action = .dumpTokens →
      printedText (perform clock s o input).out = printedText (perform clock' s' o' input').out →
      dumpedTokens o input = dumpedTokens o' input' := by
  constructor
  · intro clock s o input ho
    refine ⟨(dumpedTokens o input).map dumpText, perform_of_dump ho, lines_of_unanswered,
      splitLines_dump (dumpedTokens o input), ?_⟩
    rw [List.forall₂_map_right_iff, List.forall₂_same]
    exact fun token _ => shows_dumpText token
  · intro clock clock' s s' o o' input input' ho ho'
    exact dumpedTokens_congr ho ho'

/-- A token of both quotation marks, a backslash and two control characters has one row, and two
lines with a token each print the same as one line with both. -/
theorem dump_unambiguous_marks :
    let clock := TimeOfDay.ofSeconds
    let input : Input := { text := "", terminal := false, typing := none }
    let dumping := { Options.default with action := .dumpTokens }
    let one := { dumping with expressions := some ["\x1c3 '\"\x00\x1c\\."] }
    let two := { dumping with expressions := some ["3", "'\"\x00\x1c\\."] }
    (∃ rows, (perform clock .new one input).out = dumpHeader :: rows ++ unanswered one input ∧
      List.Forall₂ Shows ["3", "'\"\x00\x1c\\."] rows) ∧
    printedText (perform clock .new one input).out =
      printedText (perform clock .new two input).out ∧
    dumpedTokens one input = dumpedTokens two input := by
  intro clock input dumping one two
  have htokens : dumpedTokens one input = ["3", "'\"\x00\x1c\\."] := by
    decide +kernel
  have halike : printedText (perform clock .new one input).out =
      printedText (perform clock .new two input).out := by
    decide +kernel
  obtain ⟨rows, hout, -, -, hrows⟩ := dump_unambiguous.1 clock .new one input rfl
  rw [htokens] at hrows
  exact ⟨⟨rows, hout, hrows⟩, halike,
    dump_unambiguous.2 clock clock .new .new one two input input rfl rfl halike⟩

end CommandLine

end PostfixCalc
