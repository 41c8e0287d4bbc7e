import PostfixCalc.Proofs.CommandLine.Run
import PostfixCalc.Proofs.Session.Turns

/-!
# Flags only add lines

Runs with the same lines, none of which turns the steps on or off, differ by their flags
in this: showing steps puts a row for each token of an expression before its result
(`RowsOf`), and logging puts a line for each token that is fed before the message of an
expression that fails, and also where none fails (`LogOf`).  All else is the same, the
status and the history as well (`flags_only_add_lines`).
-/

namespace PostfixCalc

namespace CommandLine

open Session Machine

/-! ## What is added -/

/-- The rows of an expression that has a value, one for each of its tokens in order. -/
def RowsOf (expression : String) (rows : List String) : Prop :=
  ∃ steps, trace (some expression) = .ok steps ∧
    Token.ofExpression (some expression) = .ok (steps.map Step.token) ∧
    rows = steps.map rowText

/-- The log of an expression, one line for each token that is fed, in order: there are
none, or all of them are fed, or one of them fails after those before it. -/
inductive LogOf (expression : String) : List String → Prop
  | blank {e : EvalError} (h : Token.ofExpression (some expression) = .error e) :
      LogOf expression []
  | all {steps : List Step} {m : Machine}
      (h : Token.ofExpression (some expression) = .ok (steps.map Step.token))
      (hfed : feedAll (steps.map Step.token) (.new true) = .ok () m)
      (hsteps : m.steps = some steps) : LogOf expression (steps.map logLine)
  | upTo {steps : List Step} {token : String} {rest : List String} {m m' : Machine}
      {f : Failure}
      (h : Token.ofExpression (some expression) =
        .ok (steps.map Step.token ++ token :: rest))
      (hfed : feedAll (steps.map Step.token) (.new true) = .ok () m)
      (hsteps : m.steps = some steps) (hfails : feed token m = .error f m')
      (hevaluate : evaluate (some expression) = .error f) :
      LogOf expression (steps.map logLine)

variable {expression : String} {x : Binary64} {e : EvalError}

theorem rowsOf_of_value (h : evaluate (some expression) = .ok x) :
    RowsOf expression ((Request.calculation expression).rows true) := by
  obtain ⟨htrace, htokens, -⟩ := trace_of_evaluate h
  refine ⟨_, htrace, htokens, ?_⟩
  simp [Request.rows, h, Except.isOk, Except.toBool, shownRows]

theorem rows_of_failure (h : evaluate (some expression) = .error (.expression e))
    (shown : Bool) : (Request.calculation expression).rows shown = [] := by
  simp [Request.rows, h, Except.isOk, Except.toBool]

/-- Tokens that are fed to an empty stack are fed to a new machine, which records them. -/
theorem feedAll_new_of_feedsAll {tokens : List String} {stack : List Binary64}
    {steps : List Step} (h : FeedsAll [] tokens stack steps) :
    feedAll tokens (.new true) = .ok () { stack, steps := some steps } :=
  h.feedAll_eq (some [])

theorem logOf (expression : String) :
    LogOf expression ((Request.calculation expression).log true) := by
  obtain ⟨answer, stack, steps, hruns⟩ := exists_runs (some expression) []
  have hlog : (Request.calculation expression).log true = steps.map logLine := by
    rw [← journal_of_runs hruns]
    rfl
  have hevaluate := evaluate_of_runs hruns
  rw [hlog]
  cases hruns with
  | blank h => exact .blank h
  | fails htokens hfails =>
      obtain ⟨before, token, after, middle, rfl, hfeeds, hfeed⟩ := hfails.exists_feeds
      have hmap := hfeeds.map_token
      subst hmap
      exact .upTo htokens (feedAll_new_of_feedsAll hfeeds) rfl (hfeed.feed_eq (some steps))
        hevaluate
  | value htokens hfeeds =>
      have hmap := hfeeds.map_token
      subst hmap
      exact .all htokens (feedAll_new_of_feedsAll hfeeds) rfl
  | tooMany htokens hfeeds =>
      have hmap := hfeeds.map_token
      subst hmap
      exact .all htokens (feedAll_new_of_feedsAll hfeeds) rfl

/-! ## Runs -/

variable {clock : Nat → TimeOfDay} {s : Session} {o : Options} {input : Input}

/-- A run with flags is told by the turns of the run without them. -/
theorem perform_of_flags (ho : o.action = .calculate)
    (hlines : ∀ text ∈ lines o input, Command.togglesSteps text = false)
    (verbose steps : Bool) :
    let s₀ := { s with showSteps := false }
    let plain := Session.lines (.quiet clock) s₀ (lines o input)
    perform clock s { o with verbose, steps } input =
      Report.ofReply
        { out := (turns (.quiet clock) s₀ (lines o input)).flatMap fun t =>
            t.request.rows steps ++ (t.reply (.quiet clock)).out
          err := (turns (.quiet clock) s₀ (lines o input)).flatMap fun t =>
            t.request.log verbose ++ (t.reply (.quiet clock)).err
          failed := plain.failed
          fault := plain.fault
          session := { plain.session with showSteps := steps } }
        (unanswered o input) (interrupted o input) := by
  intro s₀ plain
  have hflags := lines_of_flags clock (s := s₀) rfl hlines verbose steps
  have hperform : perform clock s { o with verbose, steps } input = _ :=
    perform_of_calculate ho
  exact hperform.trans (congrArg (Report.ofReply · _ _) hflags)

/-- What a turn without flags prints and reports when it calculates. -/
theorem reply_of_value (clock : Nat → TimeOfDay) {t : Turn} (hhidden : t.session.showSteps = false)
    (hrequest : t.request = .calculation expression) (h : evaluate (some expression) = .ok x) :
    (t.reply (.quiet clock)).out = [x.displayText] ∧ (t.reply (.quiet clock)).err = [] := by
  rw [Turn.reply_of_calculation hrequest, calculate_of_value h, hhidden]
  exact ⟨rfl, rfl⟩

theorem reply_of_failure (clock : Nat → TimeOfDay) {t : Turn}
    (hrequest : t.request = .calculation expression)
    (h : evaluate (some expression) = .error (.expression e)) :
    (t.reply (.quiet clock)).out = [] ∧ (t.reply (.quiet clock)).err = [e.message] := by
  rw [Turn.reply_of_calculation hrequest, calculate_of_failure h]
  exact ⟨rfl, rfl⟩

/-- The flags add to calculations alone. -/
theorem added_of_no_calculation {r : Request} (h : ∀ expression, r ≠ .calculation expression) :
    r.rows true = [] ∧ r.log true = [] := by
  cases r with
  | calculation expression => exact absurd rfl (h expression)
  | _ => exact ⟨rfl, rfl⟩

/-- Runs that differ in one flag, over lines that do not turn the steps on or off, have
the same status, or the same fault, and the same history.  Showing steps reports the
same and puts rows before what a turn prints: those of the expression that it calculates
before the one line of its result, and none where no result is printed.  Logging prints
the same and puts lines before what a turn reports: those of the tokens that are fed
before the one message of an expression that fails, and where none fails the same lines
alone. -/
theorem flags_only_add_lines (clock : Nat → TimeOfDay) (s : Session) (o : Options)
    (input : Input) (ho : o.action = .calculate)
    (hlines : ∀ text ∈ lines o input, Command.togglesSteps text = false) :
    let run := fun verbose steps => perform clock s { o with verbose, steps } input
    let visited := turns (.quiet clock) { s with showSteps := false } (lines o input)
    let plain := fun t : Turn => t.reply (.quiet clock)
    (∀ verbose,
      (run verbose true).status = (run verbose false).status ∧
      (run verbose true).session.history = (run verbose false).session.history ∧
      (run verbose true).session.recorded = (run verbose false).session.recorded ∧
      (run verbose true).err = (run verbose false).err ∧
      (run verbose false).out =
        (visited.flatMap fun t => (plain t).out) ++ unanswered o input ∧
      (run verbose true).out =
        (visited.flatMap fun t => t.request.rows true ++ (plain t).out) ++ unanswered o input) ∧
    (∀ steps,
      (run true steps).status = (run false steps).status ∧
      (run true steps).session = (run false steps).session ∧
      (run true steps).out = (run false steps).out ∧
      (run false steps).err = (visited.flatMap fun t => (plain t).err) ∧
      (run true steps).err = visited.flatMap fun t => t.request.log true ++ (plain t).err) ∧
    ∀ t ∈ visited,
      (∀ expression, t.request = .calculation expression →
        (∀ x, evaluate (some expression) = .ok x →
          (plain t).out = [x.displayText] ∧ (plain t).err = [] ∧
            RowsOf expression (t.request.rows true)) ∧
        (∀ e, evaluate (some expression) = .error (.expression e) →
          (plain t).out = [] ∧ (plain t).err = [e.message] ∧ t.request.rows true = []) ∧
        LogOf expression (t.request.log true)) ∧
      ((∀ expression, t.request ≠ .calculation expression) →
        t.request.rows true = [] ∧ t.request.log true = []) := by
  intro run visited plain
  have hrun : ∀ verbose steps, run verbose steps = _ := perform_of_flags ho hlines
  refine ⟨?_, ?_, ?_⟩
  · intro verbose
    rw [hrun, hrun]
    refine ⟨rfl, rfl, rfl, rfl, ?_, rfl⟩
    simp only [Report.ofReply, Request.rows_false, List.nil_append]
    rfl
  · intro steps
    rw [hrun, hrun]
    refine ⟨rfl, rfl, rfl, ?_, rfl⟩
    simp only [Report.ofReply, Request.log_false, List.nil_append]
    rfl
  · intro t ht
    have hhidden : t.session.showSteps = false := showSteps_of_mem_turns hlines ht
    refine ⟨?_, added_of_no_calculation⟩
    intro expression hrequest
    rw [hrequest]
    refine ⟨?_, ?_, logOf expression⟩
    · intro x hx
      obtain ⟨hout, herr⟩ := reply_of_value clock hhidden hrequest hx
      exact ⟨hout, herr, rowsOf_of_value hx⟩
    · intro e he
      obtain ⟨hout, herr⟩ := reply_of_failure clock hrequest he
      exact ⟨hout, herr, rows_of_failure he true⟩

/-- Three calculations, the second of which fails at its last token. -/
theorem flags_only_add_lines_three :
    let run := fun verbose steps => perform TimeOfDay.ofSeconds .new
      { verbose, steps, prompt := none, expressions := some ["1 1 /", "2 x", ":1"],
        action := .calculate }
      { text := "", terminal := false, typing := none }
    (run false true).status = (run false false).status ∧
      (run false true).err = (run false false).err ∧
      (run true true).out = (run false true).out ∧
      (run false false).out = ["1", "1"] ∧
      (run false true).out =
        ["1\t1\tPush 1", "1\t1 1\tPush 1", "/\t1\tApply 1 / 1", "1",
          "1\t1\tPush 1", "1\t1 1\tPush 1", "/\t1\tApply 1 / 1", "1"] ∧
      (run false false).err = ["Unknown token: 'x'"] ∧
      (run true false).err =
        ["rpncalc.machine: 1: Push 1 -> [1.0]", "rpncalc.machine: 1: Push 1 -> [1.0, 1.0]",
          "rpncalc.machine: /: Apply 1 / 1 -> [1.0]", "rpncalc.machine: 2: Push 2 -> [2.0]",
          "Unknown token: 'x'", "rpncalc.machine: 1: Push 1 -> [1.0]",
          "rpncalc.machine: 1: Push 1 -> [1.0, 1.0]",
          "rpncalc.machine: /: Apply 1 / 1 -> [1.0]"] := by
  intro run
  let o : Options := { Options.default with expressions := some ["1 1 /", "2 x", ":1"] }
  obtain ⟨hsteps, hverbose, -⟩ := flags_only_add_lines TimeOfDay.ofSeconds .new o
    { text := "", terminal := false, typing := none } rfl (by decide)
  obtain ⟨hstatus, -, -, herr, -, -⟩ := hsteps false
  obtain ⟨-, -, hout, -, -⟩ := hverbose true
  exact ⟨hstatus, herr, hout, by decide +kernel, by decide +kernel, by decide +kernel,
    by decide +kernel⟩

end CommandLine

end PostfixCalc
