import PostfixCalc.Proofs.CommandLine.Run
import PostfixCalc.Proofs.Session.Remembered

/-!
# Sessions that runs lead to

A session lives on from run to run (`Reachable`).  Whatever the runs are, and whether they
log or not, all records of the session can be calculated again (`Reachable.consistent`): a
dump and a refused command line leave the history alone, and a run that calculates does so
line by line.  So the number of an entry always calculates its expression again, with the
same value, and never fails (`replay_of_reachable`).
-/

namespace PostfixCalc

namespace Session

theorem dumpLine_session (s : Session) (text : String) : (dumpLine s text).session = s := by
  unfold dumpLine
  split
  · rfl
  · split <;> rfl

theorem dumpLines_session (s : Session) (texts : List String) :
    (dumpLines s texts).session = s := by
  induction texts with
  | nil => rfl
  | cons text rest ih =>
      refine Reply.session_andThen (p := (· = s)) (dumpLine_session s text) ?_
      rintro _ rfl
      exact ih

theorem dump_session (s : Session) (texts : List String) : (dump s texts).session = s :=
  dumpLines_session s texts

end Session

namespace CommandLine

open Session

variable {clock : Nat → TimeOfDay} {s : Session}

/-- The sessions that runs of the program lead to, at the end of each run and after each
of its lines.  The next run may be one of any process, so that it may log or not. -/
inductive Reachable (clock : Nat → TimeOfDay) : Session → Prop
  | new : Reachable clock .new
  | run (p : Process) (h : Reachable clock p.session) (arguments : List String)
      (input : Input) : Reachable clock (p.run clock arguments input).session
  /-- The lines that were carried out so far are the first ones of the run. -/
  | within (p : Process) {arguments before : List String} {o : Options} {input : Input}
      (h : Reachable clock p.session) (hoptions : Options.parse arguments = .ok o)
      (hcalculates : o.action = .calculate) (hbefore : before <+: lines o input) :
      Reachable clock
        (Session.lines { verbose := (p.settle o).verbose, clock }
          { p.session with showSteps := o.steps } before).session

/-- No action of a run leaves a record that cannot be calculated again. -/
theorem consistent_perform (h : s.Consistent) (clock : Nat → TimeOfDay) (o : Options)
    (input : Input) : (perform clock s o input).session.Consistent := by
  have hsteps := h.withSteps o.steps
  cases haction : o.action with
  | calculate =>
      rw [perform_of_calculate haction]
      exact hsteps.lines _ _
  | showGrammar =>
      simp only [perform, haction]
      exact hsteps
  | showHelp =>
      simp only [perform, haction]
      exact hsteps
  | dumpTokens =>
      simp only [perform, haction, Report.ofReply, dump_session]
      exact hsteps

theorem consistent_run {p : Process} (h : p.session.Consistent) (clock : Nat → TimeOfDay)
    (arguments : List String) (input : Input) :
    (p.run clock arguments input).session.Consistent := by
  unfold Process.run
  split
  · exact consistent_perform h clock _ input
  · exact h
  · exact h

theorem Reachable.consistent (h : Reachable clock s) : s.Consistent := by
  induction h with
  | new => exact consistent_new
  | run _ _ arguments input ih => exact consistent_run ih clock arguments input
  | within _ _ _ _ _ ih => exact (ih.withSteps _).lines _ _

/-- Every record of a session can be calculated again: its expression is not blank, has
nothing to trim, is no command, and still has the value of the record.  So the number of
an entry, with steps shown or not, prints the value that the list of the history shows
for it, does not fail, reports nothing but the log of this calculation if there is one,
and puts a record of the same expression and value in front. -/
theorem replay_of_reachable (h : Reachable clock s) :
    (∀ r ∈ s.history.records, r.Replayable) ∧
      ∀ (settings : Settings) (shown : Bool) (n : Nat), 1 ≤ n → n ≤ s.history.size →
        ∃ r text, s.history.records[n - 1]? = some r ∧ r.result.display = .ok text ∧
          (line settings s ":history").out[n - 1]? =
            some s!"{n}\t{r.time.text}\t{r.expression}\t= {text}" ∧
          let reply := line settings { s with showSteps := shown } s!":{n}"
          reply.out = shownRows shown r.expression ++ [text] ∧
            reply.err = logged settings r.expression ∧
            reply.failed = false ∧
            reply.fault = none ∧
            reply.session.history.records =
              ({ r with time := settings.clock (s.recorded + 1) } ::
                s.history.records).take History.defaultCap ∧
            reply.session.history.size = min (s.history.size + 1) History.defaultCap := by
  have hconsistent := h.consistent
  refine ⟨hconsistent.replayable, ?_⟩
  intro settings shown n hpos hle
  have hlt : n - 1 < s.history.records.length := by
    simp only [History.size] at hle
    omega
  have hr := List.getElem?_eq_getElem hlt
  generalize s.history.records[n - 1] = r at hr
  have hreplay := hconsistent.replayable r (List.mem_of_getElem? hr)
  have hrecords := hconsistent.records_remember settings hreplay
  refine ⟨r, r.result.displayText, hr, Binary64.display_eq _,
    line_history_getElem? settings hpos hr, ?_⟩
  dsimp only
  rw [(hconsistent.withSteps shown).line_of_entry settings hpos hr]
  refine ⟨rfl, rfl, rfl, rfl, hrecords, ?_⟩
  show (s.remember settings r.expression r.result).history.records.length = _
  rw [hrecords, List.length_take, List.length_cons]
  exact min_comm _ _

/-- A run showed its steps, and they are hidden when the calculation is repeated. -/
theorem replay_of_reachable_sum :
    let input : Input := { text := "", terminal := false, typing := none }
    let s := (run TimeOfDay.ofSeconds .new ["-s", "-e", "3 4 +"] input).session
    Reachable TimeOfDay.ofSeconds s ∧ 1 ≤ s.history.size ∧
      (line { verbose := false, clock := TimeOfDay.ofSeconds } { s with showSteps := false }
        ":1").out = ["7"] := by
  intro input s
  have hreachable : Reachable TimeOfDay.ofSeconds s := .run .new .new _ _
  have hsize : 1 ≤ s.history.size := by decide +kernel
  refine ⟨hreachable, hsize, ?_⟩
  obtain ⟨-, hreplay⟩ := replay_of_reachable hreachable
  obtain ⟨r, text, hr, htext, -, hout, -⟩ :=
    hreplay { verbose := false, clock := TimeOfDay.ofSeconds } false 1 (Nat.le_refl 1) hsize
  have hseven : s.history.records[0]?.map (fun r => r.result.displayText) = some "7" := by
    decide +kernel
  rw [hr, Option.map_some, Option.some.injEq] at hseven
  rw [Binary64.display_eq, hseven] at htext
  obtain rfl := Except.ok.inj htext
  exact hout

/-- Where a run logs, the number of an entry is not silent. -/
theorem replay_of_reachable_logged :
    let clock := TimeOfDay.ofSeconds
    let input : Input := { text := "", terminal := false, typing := none }
    let s := (Session.lines { verbose := true, clock } .new ["1"]).session
    Reachable clock s ∧ 1 ≤ s.history.size ∧
      (line { verbose := true, clock } s ":1").err = ["rpncalc.machine: 1: Push 1 -> [1.0]"] ∧
      (run clock .new ["-v", "-e", "1", ":1"] input).err =
        ["rpncalc.machine: 1: Push 1 -> [1.0]", "rpncalc.machine: 1: Push 1 -> [1.0]"] := by
  intro clock input s
  let o : Options := { Options.default with verbose := true, expressions := some ["1", ":1"] }
  have hoptions : Options.parse ["-v", "-e", "1", ":1"] = .ok o := by decide +kernel
  have hbefore : ["1"] <+: lines o input := by decide
  exact ⟨.within .new .new hoptions rfl hbefore, by decide +kernel, by decide +kernel,
    by decide +kernel⟩

end CommandLine

end PostfixCalc
