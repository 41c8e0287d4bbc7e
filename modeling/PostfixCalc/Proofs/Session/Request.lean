import PostfixCalc.Proofs.History.Log
import PostfixCalc.Proofs.Session.Calculation
import PostfixCalc.Proofs.Session.Command

/-!
# What a line asks for

A line asks for something that its text and the history decide alone (`request`), and
the reply to the line is the reply to this request (`line_eq_reply`).  So the flags of a
session have no say in what is asked for, and the reply with flags is the reply without
them, with the rows of the steps before what is printed and the log before what is
reported (`Request.reply_of_flags`).  What fails has one message and leaves the session as it
is (`FailsWith.line_eq`).
-/

namespace PostfixCalc

namespace Session

/-- What a line asks for. -/
inductive Request where
  /-- Calculate an expression: that of the line, or that of an entry of the history. -/
  | calculation (expression : String)
  /-- A command that there is not. -/
  | unknown (name : String)
  /-- The number of an entry that there is not. -/
  | absent (number : Nat)
  | help
  | history
  | clear
  | toggleSteps
  /-- A command of digits that spell no number. -/
  | unreadable (fault : Fault)

/-- What a line asks for, the history being as it is. -/
def request (h : History TimeOfDay) (text : String) : Request :=
  match Command.name? text with
  | none => .calculation text
  | some name =>
      match Command.ofName name with
      | .error f => .unreadable f
      | .ok .help => .help
      | .ok .history => .history
      | .ok .clear => .clear
      | .ok .toggleSteps => .toggleSteps
      | .ok (.unknown shown) => .unknown shown
      | .ok (.repeatEntry number) =>
          match h.entry number with
          | .ok r => .calculation r.expression
          | .error _ => .absent number

namespace Request

/-- The reply to a request. -/
def reply (settings : Settings) (s : Session) : Request → Reply
  | calculation expression => calculate settings s expression
  | unknown name => .reported s [s!"Unknown command :{name}"]
  | absent number => .reported s [s!"No history entry {number}"]
  | help => .printed s [helpText]
  | history => .printed s (s.history.records.zipIdx.map recordText)
  | clear => .silent { s with history := s.history.clear }
  | toggleSteps =>
      .printed { s with showSteps := !s.showSteps }
        [if !s.showSteps then "steps on" else "steps off"]
  | unreadable f => .faulty s f

/-- The rows that are printed before a result, if steps are shown. -/
def rows (showSteps : Bool) : Request → List String
  | calculation expression =>
      if (evaluate (some expression)).isOk then shownRows showSteps expression else []
  | _ => []

/-- The log that is reported before an error, if there is a log. -/
def log (verbose : Bool) : Request → List String
  | calculation expression => if verbose then (journal (some expression)).map logLine else []
  | _ => []

@[simp] theorem rows_false (r : Request) : r.rows false = [] := by
  cases r <;> simp [rows, shownRows]

@[simp] theorem log_false (r : Request) : r.log false = [] := by
  cases r <;> simp [log]

end Request

variable {settings : Settings} {s : Session} {text message : String}

/-- The reply to a line is the reply to what it asks for. -/
theorem line_eq_reply (settings : Settings) (s : Session) (text : String) :
    line settings s text = (request s.history text).reply settings s := by
  unfold line request
  cases Command.name? text with
  | none => rfl
  | some name =>
      cases hc : Command.ofName name with
      | error f => simp only [hc]; rfl
      | ok c =>
          cases c with
          | help => simp only [hc]; rfl
          | history =>
              simp only [hc, command, historyRows_eq]
              rfl
          | clear => simp only [hc]; rfl
          | toggleSteps => simp only [hc]; rfl
          | unknown shown => simp only [hc]; rfl
          | repeatEntry number =>
              cases hentry : s.history.entry number with
              | ok r => simp only [hc, command, hentry]; rfl
              | error e =>
                  obtain ⟨-, rfl⟩ := History.entry_eq_error_iff.1 hentry
                  simp only [hc, command, hentry]
                  rfl

/-! ## Flags -/

/-- The settings without log. -/
def Settings.quiet (clock : Nat → TimeOfDay) : Settings where
  verbose := false
  clock := clock

/-- A reply with rows before what is printed and log before what is reported, in a session
that shows steps or does not. -/
def Reply.flagged (r : Reply) (rows log : List String) (shown : Bool) : Reply where
  out := rows ++ r.out
  err := log ++ r.err
  failed := r.failed
  fault := r.fault
  session := { r.session with showSteps := shown }

/-- The flags add rows and log to the reply without them, and change nothing else. -/
theorem Request.reply_of_flags {r : Request} (hr : r ≠ .toggleSteps) (clock : Nat → TimeOfDay)
    (verbose shown : Bool) {s : Session} (hs : s.showSteps = false) :
    r.reply { verbose, clock } { s with showSteps := shown } =
      (r.reply (.quiet clock) s).flagged (r.rows shown) (r.log verbose) shown := by
  cases r with
  | calculation expression =>
      rcases evaluate_ok_or_error (some expression) with ⟨x, hx⟩ | ⟨e, he⟩
      · simp [reply, rows, log, Reply.flagged, calculate_of_value hx, hx, hs, Except.isOk,
          Except.toBool, shownRows, logged, remember, Settings.quiet]
      · simp [reply, rows, log, Reply.flagged, calculate_of_failure he, he, Except.isOk,
          Except.toBool, logged, Settings.quiet]
  | toggleSteps => exact absurd rfl hr
  | unknown name => rfl
  | absent number => rfl
  | help => rfl
  | history => rfl
  | clear => rfl
  | unreadable f => rfl

/-- All that a reply says but for what is reported. -/
def Reply.unreported (r : Reply) : Reply :=
  { r with err := [] }

/-- Logging changes nothing but what is reported, whether or not steps are shown. -/
theorem Request.unreported_reply (r : Request) (clock : Nat → TimeOfDay)
    (verbose verbose' : Bool) (s : Session) :
    (r.reply { verbose, clock } s).unreported =
      (r.reply { verbose := verbose', clock } s).unreported := by
  cases r with
  | calculation expression =>
      rcases evaluate_ok_or_error (some expression) with ⟨x, hx⟩ | ⟨e, he⟩
      · rw [reply, reply, calculate_of_value hx, calculate_of_value hx]
        rfl
      · rw [reply, reply, calculate_of_failure he, calculate_of_failure he]
        rfl
  | _ => rfl

/-- Only a command with the name "steps" turns the showing of steps on or off. -/
theorem request_eq_toggleSteps_iff (h : History TimeOfDay) :
    request h text = .toggleSteps ↔ Command.togglesSteps text = true := by
  unfold request Command.togglesSteps
  cases Command.name? text with
  | none => simp
  | some name =>
      simp only [Option.any_some, beq_iff_eq, ← Command.ofName_eq_toggleSteps_iff]
      cases hc : Command.ofName name with
      | error f => simp
      | ok c =>
          cases c with
          | repeatEntry number =>
              cases hentry : h.entry number <;> simp [hentry]
          | _ => simp

theorem request_ne_toggleSteps (htext : Command.togglesSteps text = false)
    (h : History TimeOfDay) : request h text ≠ .toggleSteps := by
  rw [ne_eq, request_eq_toggleSteps_iff, htext]
  exact Bool.false_ne_true

theorem Request.showSteps_reply {r : Request} (hr : r ≠ .toggleSteps) (settings : Settings)
    (s : Session) : (r.reply settings s).session.showSteps = s.showSteps := by
  cases r with
  | calculation expression =>
      rcases evaluate_ok_or_error (some expression) with ⟨x, hx⟩ | ⟨e, he⟩
      · rw [reply, calculate_of_value hx, remember]
      · rw [reply, calculate_of_failure he]
  | toggleSteps => exact absurd rfl hr
  | unknown name => rfl
  | absent number => rfl
  | help => rfl
  | history => rfl
  | clear => rfl
  | unreadable f => rfl

theorem showSteps_line (settings : Settings) (s : Session) (text : String) :
    (line settings s text).session.showSteps = (s.showSteps ^^ Command.togglesSteps text) := by
  rw [line_eq_reply]
  cases htoggles : Command.togglesSteps text with
  | true =>
      rw [(request_eq_toggleSteps_iff s.history).2 htoggles, Bool.xor_true]
      rfl
  | false =>
      rw [Request.showSteps_reply (request_ne_toggleSteps htoggles s.history), Bool.xor_false]

/-! ## Failures -/

/-- The line calculates an expression that fails. -/
def Miscalculates (s : Session) (text : String) : Prop :=
  ∃ expression e, request s.history text = .calculation expression ∧
    evaluate (some expression) = .error (.expression e)

/-- The line fails with a message: its expression does, or it is a command that there is
not, or the number of an entry that there is not. -/
inductive FailsWith (s : Session) (text : String) : String → Prop
  | calculation {expression : String} {e : EvalError}
      (h : request s.history text = .calculation expression)
      (he : evaluate (some expression) = .error (.expression e)) : FailsWith s text e.message
  | unknown {name : String} (h : request s.history text = .unknown name) :
      FailsWith s text s!"Unknown command :{name}"
  | absent {number : Nat} (h : request s.history text = .absent number) :
      FailsWith s text s!"No history entry {number}"

/-- The line fails with some message. -/
def Fails (s : Session) (text : String) : Prop :=
  ∃ message, FailsWith s text message

/-- Does what is asked for fail? -/
def Request.fails : Request → Bool
  | calculation expression => !(evaluate (some expression)).isOk
  | unknown _ => true
  | absent _ => true
  | _ => false

theorem fails_iff : Fails s text ↔ (request s.history text).fails = true := by
  constructor
  · rintro ⟨message, h | h | h⟩
    · rename_i he
      rw [h, Request.fails, he]
      rfl
    · rw [h, Request.fails]
    · rw [h, Request.fails]
  · intro h
    cases hrequest : request s.history text with
    | calculation expression =>
        rcases evaluate_ok_or_error (some expression) with ⟨x, hx⟩ | ⟨e, he⟩
        · rw [hrequest, Request.fails, hx] at h
          contradiction
        · exact ⟨_, .calculation hrequest he⟩
    | unknown name => exact ⟨_, .unknown hrequest⟩
    | absent number => exact ⟨_, .absent hrequest⟩
    | _ =>
        rw [hrequest] at h
        contradiction

instance (s : Session) (text : String) : Decidable (Fails s text) :=
  decidable_of_iff _ fails_iff.symm

/-- A line that fails prints nothing, reports its message after the log, and leaves the
session as it is. -/
theorem FailsWith.line_eq (h : FailsWith s text message) (settings : Settings) :
    ∃ failed, line settings s text =
      { out := []
        err := (request s.history text).log settings.verbose ++ [message]
        failed
        fault := none
        session := s } := by
  rw [line_eq_reply]
  cases h with
  | calculation h he =>
      rw [h]
      exact ⟨true, calculate_of_failure he⟩
  | unknown h =>
      rw [h]
      exact ⟨false, rfl⟩
  | absent h =>
      rw [h]
      exact ⟨false, rfl⟩

/-- But for its message, a line that fails leaves no trace. -/
theorem Fails.line_frame (h : Fails s text) (settings : Settings) :
    (line settings s text).out = [] ∧ (line settings s text).fault = none ∧
      (line settings s text).session = s := by
  obtain ⟨message, hmessage⟩ := h
  obtain ⟨failed, hline⟩ := hmessage.line_eq settings
  rw [hline]
  exact ⟨rfl, rfl, rfl⟩

/-- What a line reports is log, or the message with which it fails. -/
theorem mem_log_or_failsWith (h : message ∈ (line settings s text).err) :
    message ∈ (request s.history text).log settings.verbose ∨
      FailsWith s text message := by
  by_cases hfails : Fails s text
  · obtain ⟨shown, hshown⟩ := hfails
    obtain ⟨failed, hline⟩ := hshown.line_eq settings
    rw [hline] at h
    rcases List.mem_append.1 h with h | h
    · exact .inl h
    · rw [List.mem_singleton.1 h]
      exact .inr hshown
  · rw [fails_iff] at hfails
    rw [line_eq_reply] at h
    cases hrequest : request s.history text with
    | calculation expression =>
        rcases evaluate_ok_or_error (some expression) with ⟨x, hx⟩ | ⟨e, he⟩
        · rw [hrequest, Request.reply, calculate_of_value hx] at h
          exact .inl h
        · rw [hrequest, Request.fails, he] at hfails
          exact absurd rfl hfails
    | unknown name => exact absurd (by rw [hrequest, Request.fails]) hfails
    | absent number => exact absurd (by rw [hrequest, Request.fails]) hfails
    | _ =>
        rw [hrequest] at h
        simp [Request.reply, Reply.printed, Reply.silent, Reply.faulty] at h

/-- What a line asks to calculate is the line itself or the expression of a record. -/
theorem eq_or_mem_of_request {expression : String}
    (h : request s.history text = .calculation expression) :
    expression = text ∨ ∃ r ∈ s.history.records, expression = r.expression := by
  unfold request at h
  cases hname : Command.name? text with
  | none =>
      rw [hname] at h
      exact .inl (Request.calculation.inj h).symm
  | some name =>
      rw [hname] at h
      cases hc : Command.ofName name with
      | error f => simp [hc] at h
      | ok c =>
          cases c with
          | repeatEntry number =>
              cases hentry : s.history.entry number with
              | error e => simp [hc, hentry] at h
              | ok r =>
                  have hexpression : r.expression = expression := by
                    simpa [hc, hentry] using h
                  have hr := (History.entry_eq_ok_iff.1 hentry).2
                  exact .inr ⟨r, List.mem_of_getElem? hr, hexpression.symm⟩
          | _ => simp [hc] at h

theorem line_failed_iff : (line settings s text).failed = true ↔ Miscalculates s text := by
  rw [line_eq_reply]
  unfold Miscalculates
  cases request s.history text with
  | calculation expression =>
      rcases evaluate_ok_or_error (some expression) with ⟨x, hx⟩ | ⟨e, he⟩
      · simp [Request.reply, calculate_of_value hx, hx]
      · simp [Request.reply, calculate_of_failure he, he]
  | unknown name => simp [Request.reply, Reply.reported, Reply.silent]
  | absent number => simp [Request.reply, Reply.reported, Reply.silent]
  | help => simp [Request.reply, Reply.printed, Reply.silent]
  | history => simp [Request.reply, Reply.printed, Reply.silent]
  | clear => simp [Request.reply, Reply.silent]
  | toggleSteps => simp [Request.reply, Reply.printed, Reply.silent]
  | unreadable f => simp [Request.reply, Reply.faulty, Reply.silent]

end Session

end PostfixCalc
