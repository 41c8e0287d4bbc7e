import PostfixCalc.CommandLine.Run

/-!
# Printed rows

What is printed is a text, and whoever reads it finds lines and fields by splitting it again.
Items without line feeds are the lines of the printed text (`splitLines_printedText`), and the
fields of a row that is made of printable texts are these texts (`fields_row`): neither a tab
nor a line break is printable.
-/

namespace PostfixCalc

namespace Text

/-- All characters of the text are printable. -/
def IsPrintableText (text : String) : Prop :=
  ∀ c ∈ text.toList, isPrintable c = true

/-- The parts of a text between the occurrences of a character. -/
def parts (c : Char) (text : String) : List String :=
  (text.toList.splitOn c).map String.ofList

/-- The fields of a row, between its tabs. -/
def fields (row : String) : List String :=
  parts '\t' row

/-- The text stands on one line: nothing in it is unprintable but the tabs. -/
def IsRow (row : String) : Prop :=
  ∀ c ∈ row.toList, c = '\t' ∨ isPrintable c = true

variable {c : Char} {text first second third row : String} {texts : List String}

/-- Texts that are joined by a character are its parts again. -/
theorem parts_of_intercalate {text : String} (hne : texts ≠ [])
    (htext : text.toList = [c].intercalate (texts.map String.toList))
    (h : ∀ t ∈ texts, c ∉ t.toList) : parts c text = texts := by
  have hsplit := List.splitOn_intercalate c
    (by simpa using h : ∀ l ∈ texts.map String.toList, c ∉ l) (by simpa using hne)
  rw [parts, htext, hsplit]
  simp

theorem parts_of_not_mem (h : c ∉ text.toList) : parts c text = [text] :=
  parts_of_intercalate (by simp) (by simp) (by simpa using h)

theorem IsPrintableText.not_mem (h : IsPrintableText text) (hc : isPrintable c = false) :
    c ∉ text.toList := by
  intro hmem
  rw [h c hmem] at hc
  contradiction

theorem isPrintableText_iff : IsPrintableText text ↔ text.toList.all isPrintable = true :=
  List.all_eq_true.symm

theorem isPrintableText_append (hfirst : IsPrintableText first)
    (hsecond : IsPrintableText second) : IsPrintableText (first ++ second) := by
  intro c hc
  rw [String.toList_append] at hc
  exact (List.mem_append.1 hc).elim (hfirst c) (hsecond c)

theorem isPrintableText_intercalate {separator : String} (hseparator : IsPrintableText separator)
    (h : ∀ text ∈ texts, IsPrintableText text) :
    IsPrintableText (separator.intercalate texts) := by
  induction texts with
  | nil =>
      intro c hc
      simp at hc
  | cons text rest ih =>
      have htext := h text (by simp)
      by_cases hrest : rest = []
      · simpa [hrest] using htext
      · rw [String.intercalate_cons_of_ne_nil hrest]
        exact isPrintableText_append (isPrintableText_append htext hseparator)
          (ih fun t ht => h t (List.mem_cons_of_mem text ht))

/-! ## Fields -/

/-- Three printable texts with tabs between them are the fields of that row. -/
theorem fields_row (hfirst : IsPrintableText first) (hsecond : IsPrintableText second)
    (hthird : IsPrintableText third) :
    fields s!"{first}\t{second}\t{third}" = [first, second, third] := by
  have htab : isPrintable '\t' = false := by decide
  have htext : (s!"{first}\t{second}\t{third}").toList =
      ['\t'].intercalate ([first, second, third].map String.toList) :=
    String.toList_intercalate (s := "\t") (l := [first, second, third])
  refine parts_of_intercalate (by simp) htext ?_
  simp [hfirst.not_mem htab, hsecond.not_mem htab, hthird.not_mem htab]

theorem isRow_row (hfirst : IsPrintableText first) (hsecond : IsPrintableText second)
    (hthird : IsPrintableText third) : IsRow s!"{first}\t{second}\t{third}" := by
  intro c hc
  have htext : (s!"{first}\t{second}\t{third}").toList =
      first.toList ++ '\t' :: (second.toList ++ '\t' :: third.toList) := by
    show (first ++ "\t" ++ second ++ "\t" ++ third).toList = _
    simp
  rw [htext] at hc
  simp only [List.mem_append, List.mem_cons] at hc
  rcases hc with hc | rfl | hc | rfl | hc
  · exact .inr (hfirst c hc)
  · exact .inl rfl
  · exact .inr (hsecond c hc)
  · exact .inl rfl
  · exact .inr (hthird c hc)

theorem IsRow.not_mem_lineFeed (h : IsRow row) : '\n' ∉ row.toList := by
  intro hmem
  rcases h '\n' hmem with htab | hprintable
  · contradiction
  · contradiction

end Text

namespace CommandLine

/-! ## Lines -/

theorem flatMap_lineFeed (lines : List (List Char)) :
    lines.flatMap (· ++ ['\n']) = ['\n'].intercalate (lines ++ [[]]) := by
  induction lines with
  | nil => rfl
  | cons line rest ih =>
      have hne : rest ++ [[]] ≠ [] := by simp
      rw [List.flatMap_cons, ih, List.cons_append, List.intercalate_cons_of_ne_nil hne]

/-- Items without line feeds are the lines of the printed text, which ends with a line feed. -/
theorem splitLines_printedText {items : List String} (h : ∀ item ∈ items, '\n' ∉ item.toList) :
    splitLines (printedText items) = items ++ [""] := by
  refine Text.parts_of_intercalate (by simp) ?_ ?_
  · rw [printedText, String.toList_join, List.map_append, List.map_singleton]
    simpa [List.flatMap_map] using flatMap_lineFeed (items.map String.toList)
  · simpa [or_imp, forall_and] using h

end CommandLine

end PostfixCalc
