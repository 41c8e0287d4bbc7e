import PostfixCalc.Proofs.CommandLine.Reachable
import PostfixCalc.Proofs.Session.Dump
import PostfixCalc.Proofs.Session.Empty

/-!
# Lines from a stream

A run that reads its lines from standard input does what the same run does with the
content of the lines given: those that are not blank, in order, and without the blanks
at their ends (`Streams.perform_eq`).  So blank lines, and blanks at the ends of lines,
do not matter (`SameContent.content_eq`).  No line that is left is blank, so that such a
run never reports an expression as empty (`Streams.not_mem_err`), and a dump reports
nothing (`Streams.dump`).
-/

namespace PostfixCalc

namespace CommandLine

open Session Text

/-! ## The content of lines -/

/-- Is there a character in the line that trimming does not take? -/
def hasContent (line : String) : Bool :=
  line.toList.any fun c => !isTrimmed c

/-- The lines that are not blank, trimmed. -/
def content (lines : List String) : List String :=
  (lines.filter hasContent).map trim

/-- The line is the text with characters around it that trimming takes. -/
def Pads (text : List Char) (line : String) : Prop :=
  ∃ front back, line.toList = front ++ (text ++ back) ∧ (∀ c ∈ front, isTrimmed c = true) ∧
    ∀ c ∈ back, isTrimmed c = true

/-- The lines differ in nothing but blank lines and the characters at the ends of lines
that trimming takes. -/
inductive SameContent : List String → List String → Prop
  | nil : SameContent [] []
  | blankLeft {line : String} {xs ys : List String} (hline : hasContent line = false)
      (h : SameContent xs ys) : SameContent (line :: xs) ys
  | blankRight {line : String} {xs ys : List String} (hline : hasContent line = false)
      (h : SameContent xs ys) : SameContent xs (line :: ys)
  | cons {text : List Char} {line line' : String} {xs ys : List String} (hline : Pads text line)
      (hline' : Pads text line') (h : SameContent xs ys) :
      SameContent (line :: xs) (line' :: ys)

variable {line : String} {xs ys : List String}

theorem isEmpty_trim (line : String) : (trim line).isEmpty = !hasContent line := by
  rw [Bool.eq_iff_iff, Bool.not_eq_true', hasContent, List.any_eq_false]
  simp [trim, trimChars_eq_nil_iff]

/-- Trimming all lines and leaving out those that are empty then leaves the content. -/
theorem streamed_eq_content (lines : List String) : streamed lines = content lines := by
  rw [streamed, content, List.filter_map]
  congr 2
  funext line
  simp [isEmpty_trim]

theorem Pads.trim_eq {text : List Char} (h : Pads text line) :
    trim line = String.ofList (trimChars text) := by
  obtain ⟨front, back, hline, hfront, hback⟩ := h
  rw [trim, hline, trimChars_blanks_append hfront, trimChars_append_blanks hback]

theorem pads_toList (line : String) : Pads line.toList line :=
  ⟨[], [], by simp, by simp, by simp⟩

theorem content_cons_of_blank (h : hasContent line = false) :
    content (line :: xs) = content xs := by
  rw [content, List.filter_cons_of_neg (by simp [h]), content]

theorem content_cons (line : String) (xs : List String) :
    content (line :: xs) =
      if (trim line).isEmpty then content xs else trim line :: content xs := by
  cases h : hasContent line with
  | true => simp [content, isEmpty_trim, h]
  | false => simp [content, isEmpty_trim, h]

/-- Blank lines and blanks at the ends of lines do not matter. -/
theorem SameContent.content_eq (h : SameContent xs ys) : content xs = content ys := by
  induction h with
  | nil => rfl
  | blankLeft hline _ ih => rw [content_cons_of_blank hline, ih]
  | blankRight hline _ ih => rw [content_cons_of_blank hline, ih]
  | cons hline hline' _ ih => rw [content_cons, content_cons, hline.trim_eq, hline'.trim_eq, ih]

/-- A line of the content has a character that trimming does not take. -/
theorem exists_of_mem_content {text : String} (h : text ∈ content xs) :
    ∃ c ∈ text.toList, isTrimmed c = false := by
  obtain ⟨line, hline, rfl⟩ := List.mem_map.1 h
  obtain ⟨c, hc, hkept⟩ := List.any_eq_true.1 (List.mem_filter.1 hline).2
  have hne := trimChars_ne_nil ⟨c, hc, by simpa using hkept⟩
  obtain ⟨d, hd⟩ := exists_mem_trimChars hne
  exact ⟨d, by simpa [trim] using hd⟩

/-! ## Runs over a stream -/

/-- The run reads its lines from standard input. -/
structure Streams (o : Options) (input : Input) : Prop where
  expressions_eq : o.expressions = none
  prompts_eq : prompts o input.terminal = false

variable {clock : Nat → TimeOfDay} {s : Session} {o : Options} {input input' : Input}

theorem Streams.lines_eq (h : Streams o input) :
    lines o input = content (splitLines input.text) := by
  simp only [lines, h.expressions_eq, h.prompts_eq]
  exact streamed_eq_content _

theorem Streams.unanswered_eq (h : Streams o input) : unanswered o input = [] := by
  simp [unanswered, h.prompts_eq]

theorem Streams.interrupted_eq (h : Streams o input) : interrupted o input = false := by
  simp [interrupted, h.prompts_eq]

/-- A run over a stream is the run over its content. -/
theorem Streams.perform_eq (h : Streams o input) (clock : Nat → TimeOfDay) (s : Session)
    (input' : Input) :
    perform clock s o input =
      perform clock s { o with expressions := some (content (splitLines input.text)) } input' := by
  unfold perform
  simp only [h.lines_eq, h.unanswered_eq, h.interrupted_eq]
  rfl

/-! ## What a stream leads to -/

theorem Streams.not_blank (h : Streams o input) :
    ∀ text ∈ lines o input, ∃ c ∈ text.toList, isTrimmed c = false := by
  rw [h.lines_eq]
  exact fun text => exists_of_mem_content

/-- A dump over a stream reports nothing and has status zero. -/
theorem Streams.dump (h : Streams o input) (haction : o.action = .dumpTokens) :
    (perform clock s o input).status = .ok 0 ∧ (perform clock s o input).err = [] := by
  have htokens : ∀ text ∈ lines o input, dumpErrors text = [] ∧ isRefused text = false := by
    intro text htext
    have hne := trimChars_ne_nil (h.not_blank text htext)
    simp [dumpErrors, isRefused, Token.ofExpression_of_ne_nil hne]
  have herr : (lines o input).flatMap dumpErrors = [] :=
    List.flatMap_eq_nil_iff.2 fun text htext => (htokens text htext).1
  have hfailed : (lines o input).any isRefused = false :=
    List.any_eq_false.2 fun text htext => by simp [(htokens text htext).2]
  simp only [perform, haction, dump_eq, herr, hfailed, h.interrupted_eq]
  exact ⟨rfl, rfl⟩

/-- No run over a stream reports an empty expression, as long as none is remembered. -/
theorem Streams.not_mem_err (h : Streams o input) (hs : s.Consistent) :
    EvalError.emptyExpression.message ∉ (perform clock s o input).err := by
  cases haction : o.action with
  | calculate =>
      rw [perform_of_calculate haction]
      exact not_mem_err_of_lines (hs.withSteps o.steps) h.not_blank _
  | showGrammar => simp [perform, haction, Report.printed]
  | showHelp => simp [perform, haction, Report.printed]
  | dumpTokens => simp [(h.dump haction).2]

/-- A run over a stream does what the same run does with the lines given that are not
blank, trimmed and in order, whatever the session, and whatever could be read besides.  So
it is the same for another text whose lines differ in blank lines and in what trimming
takes off the ends of lines.  In a session that runs lead to, it never reports an empty
expression, and a dump never reports anything or fails. -/
theorem perform_streamed (clock : Nat → TimeOfDay) (s : Session) (h : Streams o input) :
    (∀ input' : Input, perform clock s o input =
      perform clock s { o with expressions := some (content (splitLines input.text)) } input') ∧
    (∀ input' : Input, Streams o input' →
      SameContent (splitLines input.text) (splitLines input'.text) →
      perform clock s o input' = perform clock s o input) ∧
    (Reachable clock s →
      EvalError.emptyExpression.message ∉ (perform clock s o input).err) ∧
    (o.action = .dumpTokens →
      (perform clock s o input).status = .ok 0 ∧ (perform clock s o input).err = []) := by
  refine ⟨h.perform_eq clock s, ?_, fun hs => h.not_mem_err hs.consistent, h.dump⟩
  intro input' h' hsame
  rw [h.perform_eq clock s input, h'.perform_eq clock s input, hsame.content_eq]

/-- Blanks around a number, an empty line, and a blank after the command that repeats the
number. -/
theorem perform_streamed_recall :
    let clock := TimeOfDay.ofSeconds
    let typed : Input := { text := " 1 \n\n:1\t", terminal := false, typing := none }
    let plain : Input := { text := "1\n:1", terminal := false, typing := none }
    let given := { Options.default with expressions := some ["1", ":1"] }
    let dumped := { Options.default with action := .dumpTokens }
    perform clock .new .default typed = perform clock .new given plain ∧
      (perform clock .new given plain).out = ["1", "1"] ∧
      perform clock .new .default plain = perform clock .new .default typed ∧
      EvalError.emptyExpression.message ∉ (perform clock .new .default typed).err ∧
      (perform clock .new dumped typed).status = .ok 0 := by
  intro clock typed plain given dumped
  have hstreams : Streams .default typed := ⟨rfl, rfl⟩
  obtain ⟨hgiven, hsame, hnever, -⟩ := perform_streamed clock .new hstreams
  have hdumps : Streams dumped typed := ⟨rfl, rfl⟩
  obtain ⟨-, -, -, hdump⟩ := perform_streamed clock .new hdumps
  have hcontent : content (splitLines typed.text) = ["1", ":1"] := by
    decide +kernel
  have hlines : splitLines typed.text = [" 1 ", "", ":1\t"] ∧
      splitLines plain.text = ["1", ":1"] := by
    decide +kernel
  have hspace : ∀ c ∈ [' '], isTrimmed c = true := by
    simpa using (show isTrimmed ' ' = true by decide)
  have htab : ∀ c ∈ ['\t'], isTrimmed c = true := by
    simpa using (show isTrimmed '\t' = true by decide)
  have hone : Pads ['1'] " 1 " := ⟨[' '], [' '], rfl, hspace, hspace⟩
  have hrecall : Pads [':', '1'] ":1\t" := ⟨[], ['\t'], rfl, by simp, htab⟩
  have hspaced : SameContent (splitLines typed.text) (splitLines plain.text) := by
    rw [hlines.1, hlines.2]
    exact .cons hone (pads_toList "1")
      (.blankLeft rfl (.cons hrecall (pads_toList ":1") .nil))
  have hplain := hgiven plain
  rw [hcontent] at hplain
  exact ⟨hplain, by decide +kernel, hsame plain ⟨rfl, rfl⟩ hspaced, hnever .new, (hdump rfl).1⟩

/-! Lines that are given are not trimmed, and a blank one among them is an error. -/

example :
    (perform TimeOfDay.ofSeconds .new { Options.default with expressions := some ["  "] }
      { text := "", terminal := false, typing := none }).err = ["Expression cannot be empty"] := by
  decide +kernel

end CommandLine

end PostfixCalc
