import PostfixCalc.History
import PostfixCalc.Machine.Evaluation
import PostfixCalc.Session.Command

/-!
# Sessions

A session calculates lines one after the other.  What is printed, what is
reported, and the session that goes on are values, and so is the time: the clock
tells when the next record is made by how many were made before.
-/

namespace PostfixCalc

/-- A time of day. -/
structure TimeOfDay where
  hour : Nat
  minute : Nat
  second : Nat
  deriving DecidableEq, Repr

namespace TimeOfDay

/-- The time of day a number of seconds after midnight. -/
def ofSeconds (n : Nat) : TimeOfDay where
  hour := n / 3600 % 24
  minute := n / 60 % 60
  second := n % 60

/-- Two digits at least. -/
def twoDigits (n : Nat) : String :=
  if n < 10 then s!"0{n}" else s!"{n}"

def text (t : TimeOfDay) : String :=
  s!"{twoDigits t.hour}:{twoDigits t.minute}:{twoDigits t.second}"

end TimeOfDay

/-- The state of a session. -/
structure Session where
  history : History TimeOfDay
  /-- How many records were made so far, forgotten ones included. -/
  recorded : Nat
  /-- Are the steps of each calculation shown? -/
  showSteps : Bool

namespace Session

def new : Session where
  history := default
  recorded := 0
  showSteps := false

/-- How a session is run. -/
structure Settings where
  /-- Is a line of log reported for every step? -/
  verbose : Bool
  /-- The time of the record that is made as the given one, counted from one. -/
  clock : Nat → TimeOfDay

/-- What a line, or a row of lines, leads to. -/
structure Reply where
  /-- What is printed, each item on a line of its own. -/
  out : List String
  /-- What is reported as errors or log, each item on a line of its own. -/
  err : List String
  /-- Has an expression failed? -/
  failed : Bool
  /-- The fault that ends the session, if one does. -/
  fault : Option Fault
  session : Session

namespace Reply

/-- Nothing but the session. -/
def silent (s : Session) : Reply where
  out := []
  err := []
  failed := false
  fault := none
  session := s

/-- Print some lines and go on. -/
def printed (s : Session) (out : List String) : Reply :=
  { silent s with out }

/-- Report some lines and go on. -/
def reported (s : Session) (err : List String) : Reply :=
  { silent s with err }

/-- End the session by a fault. -/
def faulty (s : Session) (f : Fault) : Reply :=
  { silent s with fault := some f }

/-- Go on after a reply with what the session does next, unless it has ended. -/
def andThen (r : Reply) (next : Session → Reply) : Reply :=
  match r.fault with
  | some _ => r
  | none =>
      let r' := next r.session
      { out := r.out ++ r'.out
        err := r.err ++ r'.err
        failed := r.failed || r'.failed
        fault := r'.fault
        session := r'.session }

end Reply

/-- The line of log for a step. -/
def logLine (step : Step) : String :=
  let stack := ", ".intercalate (step.stack.map Binary64.text)
  s!"rpncalc.machine: {step.token}: {step.action} -> [{stack}]"

/-- The row that shows a step: token, stack and action. -/
def stepRow (step : Step) : Except Fault String := do
  let texts ← step.stack.mapM Binary64.display
  let stack := " ".intercalate texts
  return s!"{step.token}\t{stack}\t{step.action}"

/-- The topmost value after the last step. -/
def finalValue (steps : List Step) : Except Fault Binary64 :=
  match steps.getLast? with
  | none => .error .emptyTrace
  | some step =>
      match step.stack.getLast? with
      | none => .error .emptyStack
      | some x => .ok x

/-- The rows to show for an expression, and its value. -/
def compute (showSteps : Bool) (expression : String) :
    Except Failure (List String × Binary64) :=
  if showSteps then do
    let steps ← trace (some expression)
    let rows ← Failure.ofFaulty (steps.mapM stepRow)
    let value ← Failure.ofFaulty (finalValue steps)
    return (rows, value)
  else do
    let value ← evaluate (some expression)
    return ([], value)

/-- Remember a calculation at the time that the clock tells. -/
def remember (settings : Settings) (s : Session) (expression : String) (value : Binary64) :
    Session :=
  { s with
    history := s.history.add expression value (settings.clock (s.recorded + 1))
    recorded := s.recorded + 1 }

/-- Calculate an expression: show its steps if they are wanted, remember it,
and print its value.  The log runs to the end or to the first failure. -/
def calculate (settings : Settings) (s : Session) (expression : String) : Reply :=
  let log := if settings.verbose then (journal (some expression)).map logLine else []
  match compute s.showSteps expression with
  | .error (.expression e) => { Reply.reported s (log ++ [e.message]) with failed := true }
  | .error (.fault f) => { Reply.reported s log with fault := some f }
  | .ok (rows, value) =>
      let s' := s.remember settings expression value
      match value.display with
      | .ok text => { Reply.printed s' (rows ++ [text]) with err := log }
      | .error f => { Reply.printed s' rows with err := log, fault := some f }

/-- The list of the history, newest record first. -/
def historyRows (h : History TimeOfDay) : Except Fault (List String) :=
  h.records.zipIdx.mapM fun (r, i) => do
    let value ← r.result.display
    let number := i + 1
    return s!"{number}\t{r.time.text}\t{r.expression}\t= {value}"

/-- How to use the calculator. -/
def helpText : String :=
  "\n".intercalate
    ["Reverse Polish Notation places operators after their operands. No",
      "parentheses needed!",
      "",
      "  3 4 +         7",
      "  3 4 + 5 *     35",
      "  9 sqrt        3",
      "  90 sin        1",
      "",
      "Operators:",
      "  +     Addition",
      "  -     Subtraction",
      "  *     Multiplication",
      "  /     Division",
      "  ^     Power",
      "  sqrt  Square root",
      "  sin   Sine (degrees)",
      "  cos   Cosine (degrees)",
      "  tan   Tangent (degrees)",
      "",
      "Commands:",
      "  :help      This text",
      "  :history   Past calculations, most recent first",
      "  :clear     Forget past calculations",
      "  :steps     Toggle showing each step",
      "  :N         Calculate history entry N again"]

/-- Carry out a command.  None of them makes the session fail. -/
def command (settings : Settings) (s : Session) : Command → Reply
  | .help => .printed s [helpText]
  | .history =>
      match historyRows s.history with
      | .ok rows => .printed s rows
      | .error f => .faulty s f
  | .clear => .silent { s with history := s.history.clear }
  | .toggleSteps =>
      let shown := !s.showSteps
      .printed { s with showSteps := shown } [if shown then "steps on" else "steps off"]
  | .repeatEntry number =>
      match s.history.entry number with
      | .ok r => calculate settings s r.expression
      | .error e => .reported s [e.message]
  | .unknown name => .reported s [s!"Unknown command :{name}"]

/-- Carry out a line: a command if it is one, and an expression otherwise. -/
def line (settings : Settings) (s : Session) (text : String) : Reply :=
  match Command.name? text with
  | none => calculate settings s text
  | some name =>
      match Command.ofName name with
      | .ok c => command settings s c
      | .error f => .faulty s f

/-- Carry out lines in order, until a fault ends the session. -/
def lines (settings : Settings) : Session → List String → Reply
  | s, [] => .silent s
  | s, text :: rest => (line settings s text).andThen fun s' => lines settings s' rest

end Session

end PostfixCalc
