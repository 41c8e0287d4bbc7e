import PostfixCalc.CommandLine.Run
import PostfixCalc.Proofs.Session.Lines

/-!
# Runs that calculate

A run that calculates carries out its lines in order and ends with status zero or
one, unless one of them is unreadable; then it ends there
(`perform_to_the_end`).  Whatever else a line is, an expression that fails, an
unknown command, or the number of no entry, the lines after it are carried out.
-/

namespace PostfixCalc

namespace CommandLine

open Command Session Text

variable {clock : Nat → TimeOfDay} {s : Session} {o : Options} {input : Input}

/-- The replies of a run with these options to some of its lines. -/
def answered (clock : Nat → TimeOfDay) (s : Session) (o : Options) (texts : List String) :
    List Reply :=
  replies { verbose := o.verbose, clock } { s with showSteps := o.steps } texts

theorem perform_of_calculate (ho : o.action = .calculate) :
    perform clock s o input =
      Report.ofReply
        (Session.lines { verbose := o.verbose, clock } { s with showSteps := o.steps }
          (lines o input))
        (unanswered o input) (interrupted o input) := by
  simp only [perform, ho]

/-- A run calculates these lines, with these flags and to the last of them: the lines are
given or come from a stream, and nobody interrupts. -/
structure Calculates (o : Options) (input : Input) (verbose steps : Bool)
    (texts : List String) : Prop where
  action_eq : o.action = .calculate
  verbose_eq : o.verbose = verbose
  steps_eq : o.steps = steps
  lines_eq : lines o input = texts
  unanswered_eq : unanswered o input = []
  interrupted_eq : interrupted o input = false

theorem calculates_given (verbose steps : Bool) (prompt : Option String) (texts : List String)
    (input : Input) :
    Calculates { verbose, steps, prompt, expressions := some texts, action := .calculate } input
      verbose steps texts where
  action_eq := rfl
  verbose_eq := rfl
  steps_eq := rfl
  lines_eq := rfl
  unanswered_eq := rfl
  interrupted_eq := rfl

/-- Only the lines and the flags matter to such a run. -/
theorem Calculates.perform_eq {verbose steps : Bool} {texts : List String}
    (h : Calculates o input verbose steps texts) (clock : Nat → TimeOfDay) (s : Session) :
    perform clock s o input =
      Report.ofReply (Session.lines { verbose, clock } { s with showSteps := steps } texts) []
        false := by
  rw [perform_of_calculate h.action_eq, h.lines_eq, h.unanswered_eq, h.interrupted_eq,
    h.verbose_eq, h.steps_eq]

theorem perform_of_readable (ho : o.action = .calculate)
    (hreadable : ∀ text ∈ lines o input, ¬ IsUnreadable text) :
    ((perform clock s o input).status = .ok 0 ∨ (perform clock s o input).status = .ok 1) ∧
      (perform clock s o input).out =
        (answered clock s o (lines o input)).flatMap Reply.out ++ unanswered o input ∧
      (perform clock s o input).err = (answered clock s o (lines o input)).flatMap Reply.err := by
  obtain ⟨hfault, hout, herr, -⟩ :=
    lines_of_readable { verbose := o.verbose, clock } { s with showSteps := o.steps } hreadable
  rw [perform_of_calculate ho]
  refine ⟨?_, ?_, herr⟩
  · simp only [Report.ofReply, hfault, Except.ok.injEq]
    split
    · exact .inr rfl
    · exact .inl rfl
  · simp only [Report.ofReply, hout, answered]

theorem perform_of_unreadable (ho : o.action = .calculate) {before after : List String}
    {text : String} (hlines : lines o input = before ++ text :: after)
    (hbefore : ∀ t ∈ before, ¬ IsUnreadable t) (h : IsUnreadable text) :
    (∃ name f, text.toList = ':' :: name ∧ readWhole (trimChars name) = .error f ∧
        (perform clock s o input).status = .error f) ∧
      (perform clock s o input).out =
        (answered clock s o before).flatMap Reply.out ++ unanswered o input ∧
      (perform clock s o input).err = (answered clock s o before).flatMap Reply.err := by
  obtain ⟨-, hout, herr, -⟩ :=
    lines_of_readable { verbose := o.verbose, clock } { s with showSteps := o.steps } hbefore
  obtain ⟨name, f, htext, hf, hends⟩ :=
    lines_of_unreadable { verbose := o.verbose, clock } { s with showSteps := o.steps } hbefore h
      after
  rw [perform_of_calculate ho, hlines, hends]
  refine ⟨⟨name, f, htext, hf, rfl⟩, ?_, herr⟩
  simp only [Report.ofReply, hout, answered]

/-- A run carries out all its lines, in order and whatever they are, and its
status is zero or one, unless a line is unreadable; the first such line ends it,
after the lines before it.  Any other command that is not known and not the
number of an entry is reported in one line, and the session goes on as it was. -/
theorem perform_to_the_end (clock : Nat → TimeOfDay) (s : Session) (o : Options) (input : Input)
    (ho : o.action = .calculate) :
    ((∀ text ∈ lines o input, ¬ IsUnreadable text) →
      ((perform clock s o input).status = .ok 0 ∨ (perform clock s o input).status = .ok 1) ∧
      (perform clock s o input).out =
        (answered clock s o (lines o input)).flatMap Reply.out ++ unanswered o input ∧
      (perform clock s o input).err =
        (answered clock s o (lines o input)).flatMap Reply.err) ∧
    (∀ before text after, lines o input = before ++ text :: after →
      (∀ t ∈ before, ¬ IsUnreadable t) → IsUnreadable text →
      (∃ name f, text.toList = ':' :: name ∧ readWhole (trimChars name) = .error f ∧
        (perform clock s o input).status = .error f) ∧
      (perform clock s o input).out =
        (answered clock s o before).flatMap Reply.out ++ unanswered o input ∧
      (perform clock s o input).err = (answered clock s o before).flatMap Reply.err) ∧
    ∀ (settings : Settings) (present : Session) (text : String) (name : List Char),
      text.toList = ':' :: name → String.ofList (trimChars name) ∉ fixedNames →
      (∀ n, readWhole (trimChars name) = .ok n → ¬ (1 ≤ n ∧ n ≤ present.history.size)) →
      ¬ IsUnreadable text →
      line settings present text =
          .reported present [s!"Unknown command :{String.ofList (trimChars name)}"] ∨
        ∃ n : Nat, readWhole (trimChars name) = .ok n ∧
          line settings present text = .reported present [s!"No history entry {n}"] := by
  refine ⟨perform_of_readable ho, ?_, ?_⟩
  · intro before text after hlines hbefore h
    exact perform_of_unreadable ho hlines hbefore h
  · intro settings present text name htext hfixed habsent hreadable
    exact line_of_unknown htext hfixed habsent hreadable

/-- A superscript is a digit but no decimal one, so that the run ends before its
last line.  The number of no entry does not end a run. -/
theorem perform_to_the_end_superscript :
    let clock := fun _ => TimeOfDay.ofSeconds 0
    let given := fun texts => { Options.default with expressions := some texts }
    let input : Input := { text := "", terminal := false, typing := none }
    (∃ f, (perform clock .new (given ["1", ":²", "2"]) input).status = .error f) ∧
      (perform clock .new (given ["1", ":²", "2"]) input).out = ["1"] ∧
      (perform clock .new (given ["1", ":5", "2"]) input).out = ["1", "2"] ∧
      ∃ message, line { verbose := false, clock } .new ":5" = .reported .new [message] := by
  intro clock given input
  obtain ⟨hall, -, hunknown⟩ := perform_to_the_end clock .new (given ["1", ":5", "2"]) input rfl
  obtain ⟨-, hends, -⟩ := perform_to_the_end clock .new (given ["1", ":²", "2"]) input rfl
  obtain ⟨⟨_, f, -, -, hfault⟩, hout, -⟩ :=
    hends ["1"] ":²" ["2"] rfl (by decide +kernel) (by decide +kernel)
  obtain ⟨-, hout', -⟩ := hall (by decide +kernel)
  have habsent : ∀ n, readWhole ['5'] = .ok n → ¬ (1 ≤ n ∧ n ≤ 0) := by
    intro n _
    omega
  have hfive := hunknown { verbose := false, clock } .new ":5" ['5'] rfl (by decide) habsent
    (by decide +kernel)
  refine ⟨⟨f, hfault⟩, hout.trans (by decide +kernel), hout'.trans (by decide +kernel), ?_⟩
  rcases hfive with h | ⟨n, -, h⟩
  · exact ⟨_, h⟩
  · exact ⟨_, h⟩

end CommandLine

end PostfixCalc
