import PostfixCalc.Proofs.CommandLine.Run
import PostfixCalc.Proofs.Session.Turns

/-!
# Lines that fail leave no trace

A line fails if its expression does, if it is a command that there is not, or if it is
the number of no entry.  It prints nothing, remembers nothing, and has one message.  So
such lines can be left out of a run, any of them: what is printed, the session after it,
and a fault that ends it are the same, and what is reported loses their messages
(`perform_without_failing`).  Only a failed expression makes the status one.
-/

namespace PostfixCalc

namespace CommandLine

open Session

variable {clock : Nat → TimeOfDay} {s : Session} {verbose steps : Bool} {texts : List String}
  {o o' : Options} {input input' : Input}

namespace Report

theorem status_ofReply_eq_error_iff {r : Reply} {closing : List String} {late : Bool} {f : Fault} :
    (ofReply r closing late).status = .error f ↔ r.fault = some f := by
  unfold ofReply
  cases r.fault <;> simp

/-- A run that no fault ends has status one if it failed or was interrupted, and zero if
not. -/
theorem status_ofReply_eq_ok_iff {r : Reply} {closing : List String} {late : Bool} {n : Nat} :
    (ofReply r closing late).status = .ok n ↔
      r.fault = none ∧ n = if r.failed || late then 1 else 0 := by
  unfold ofReply
  cases r.fault with
  | some f => simp
  | none =>
      simp only [true_and, Except.ok.injEq]
      exact eq_comm

end Report

/-- The turns of a run with these flags. -/
def turnsOf (clock : Nat → TimeOfDay) (s : Session) (verbose steps : Bool)
    (texts : List String) : List Turn :=
  turns { verbose, clock } { s with showSteps := steps } texts

/-- A run in which lines that fail are left out, any of them, prints the same and leaves
the same session, and it is ended by a fault if and only if the whole run is, by the same
one.  What is reported is put together from the turns of the lines; those of the lines
left out are missing, and without log each of these has reported one message.  A run that
no fault ends has status one if one of its lines calculated an expression that failed, and
else zero. -/
theorem perform_without_failing (clock : Nat → TimeOfDay) (s : Session) {keep : Nat → Bool}
    (h : Calculates o input verbose steps texts)
    (h' : Calculates o' input' verbose steps (keepAt keep texts))
    (hfailing : ∀ i t, (turnsOf clock s verbose steps texts)[i]? = some t → keep i = false →
      t.Fails) :
    let whole := perform clock s o input
    let rest := perform clock s o' input'
    let visited := turnsOf clock s verbose steps texts
    let err := fun t : Turn => (t.reply { verbose, clock }).err
    rest.out = whole.out ∧
      rest.session = whole.session ∧
      (∀ f, rest.status = .error f ↔ whole.status = .error f) ∧
      whole.err = visited.flatMap err ∧
      rest.err = (keepAt keep visited).flatMap err ∧
      (verbose = false → ∀ i t, visited[i]? = some t → keep i = false →
        ∃ message, t.FailsWith message ∧ err t = [message]) ∧
      ∀ n, whole.status = .ok n →
        (n = 1 ↔ ∃ t ∈ visited, t.Miscalculates) ∧
          (n = 0 ↔ ¬ ∃ t ∈ visited, t.Miscalculates) := by
  intro whole rest visited err
  obtain ⟨hout, hfault, hsession⟩ := lines_keepAt hfailing
  have hwhole : whole = _ := h.perform_eq clock s
  have hrest : rest = _ := h'.perform_eq clock s
  rw [hwhole, hrest]
  refine ⟨?_, hsession, ?_, (lines_out_err _ _ _).2, ?_, ?_, ?_⟩
  · exact congrArg (· ++ []) hout
  · intro f
    rw [Report.status_ofReply_eq_error_iff, Report.status_ofReply_eq_error_iff, hfault]
  · show (Session.lines _ _ (keepAt keep texts)).err = _
    rw [(lines_out_err _ _ _).2, turns_keepAt hfailing]
    rfl
  · rintro rfl i t ht hkeep
    obtain ⟨message, hmessage⟩ := hfailing i t ht hkeep
    obtain ⟨failed, hline⟩ := hmessage.line_eq { verbose := false, clock }
    refine ⟨message, hmessage, ?_⟩
    show (line _ t.session t.text).err = _
    rw [hline, Request.log_false, List.nil_append]
  · intro n hn
    obtain ⟨-, hn⟩ := Report.status_ofReply_eq_ok_iff.1 hn
    have hfailed : _ ↔ ∃ t ∈ visited, t.Miscalculates := lines_failed_iff _ _ _
    rw [← hfailed, hn, Bool.or_false]
    split <;> simp [*]

/-- Of six lines three fail: an expression short of an operand, the number of no entry, and
a command that there is not. -/
theorem perform_without_failing_three :
    let clock := TimeOfDay.ofSeconds
    let run := fun texts => perform clock .new
      { verbose := false, steps := true, prompt := none, expressions := some texts,
        action := .calculate }
      { text := "", terminal := false, typing := none }
    let whole := run ["1", "2 +", ":7", ":x", "1 1 +", ":2"]
    let rest := run ["1", "1 1 +", ":2"]
    rest.out = whole.out ∧ rest.session = whole.session ∧
      whole.err = ["Insufficient operands for operator '+'", "No history entry 7",
        "Unknown command :x"] ∧ rest.err = [] ∧
      whole.status = .ok 1 ∧ rest.status = .ok 0 := by
  intro clock run whole rest
  let texts := ["1", "2 +", ":7", ":x", "1 1 +", ":2"]
  let keep := fun i => !([1, 2, 3] : List Nat).contains i
  have hkept : keepAt keep texts = ["1", "1 1 +", ":2"] := by decide
  have hplaces : ∀ p ∈ (turnsOf clock .new false true texts).zipIdx, keep p.2 = false →
      p.1.Fails := by
    decide +kernel
  have hfailing : ∀ i t, (turnsOf clock .new false true texts)[i]? = some t → keep i = false →
      t.Fails := by
    intro i t ht
    exact hplaces (t, i) (List.mem_zipIdx_iff_getElem?.2 ht)
  have hrest := calculates_given false true none ["1", "1 1 +", ":2"]
    { text := "", terminal := false, typing := none }
  rw [← hkept] at hrest
  obtain ⟨hout, hsession, -⟩ :=
    perform_without_failing clock .new (calculates_given false true none texts _) hrest hfailing
  rw [hkept] at hout hsession
  exact ⟨hout, hsession, by decide +kernel, by decide +kernel, by decide +kernel,
    by decide +kernel⟩

end CommandLine

end PostfixCalc
