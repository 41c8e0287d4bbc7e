import PostfixCalc.CommandLine.Manual
import PostfixCalc.CommandLine.Options
import PostfixCalc.Session.Dump

/-!
# Runs of the program

A run has arguments and input, and it prints, reports and leaves a session to
the next run.  Expressions come from the arguments as they are, or else from a
stream of lines, of which the blank ones are skipped and the others trimmed.
Runs of one process share the log as well: the first run that is not refused
settles for all of them whether they log.
-/

namespace PostfixCalc

namespace CommandLine

/-- What is typed at the prompt. -/
structure Typing where
  lines : List String
  /-- Is the prompt interrupted after these lines? -/
  interrupted : Bool
  deriving Repr

/-- What is left of a prompt that nobody answers.  The terminal decides this; all that is
known of it is that the cursor returns to the start of its line. -/
structure Leftover where
  lines : String → List String
  exists_return : ∀ prompt, ∃ line ∈ lines prompt, '\r' ∈ line.toList

/-- The prompt is left as it was, on a line of its own. -/
def Leftover.promptAlone : Leftover where
  lines := fun prompt => [prompt ++ "\r"]
  exists_return := fun prompt => ⟨prompt ++ "\r", by simp, by simp⟩

/-- What a run can read, and where it prints. -/
structure Input where
  /-- The text of standard input. -/
  text : String
  /-- Are standard input and output a terminal? -/
  terminal : Bool
  /-- What is typed at the prompt, if anybody is there to type. -/
  typing : Option Typing
  /-- What the terminal shows of the prompt if nobody is. -/
  leftover : Leftover := .promptAlone

/-- What a run leads to. -/
structure Report where
  out : List String
  err : List String
  /-- The exit status, or the fault that ends the run. -/
  status : Except Fault Nat
  session : Session

namespace Report

/-- A run that only prints. -/
def printed (s : Session) (out : List String) : Report where
  out := out
  err := []
  status := .ok 0
  session := s

/-- The run that a reply to its lines makes, with what is printed after them.  An
interruption counts as a failure, but it comes too late after a fault. -/
def ofReply (r : Session.Reply) (closing : List String) (interrupted : Bool) : Report where
  out := r.out ++ closing
  err := r.err
  status :=
    match r.fault with
    | some f => .error f
    | none => .ok (if r.failed || interrupted then 1 else 0)
  session := r.session

end Report

/-- The lines of a stream that are not blank, trimmed. -/
def streamed (lines : List String) : List String :=
  (lines.map Text.trim).filter fun line => !line.isEmpty

/-- The lines of a text; only line feeds end them. -/
def splitLines (text : String) : List String :=
  (text.toList.splitOn '\n').map String.ofList

/-- Does a run with these options ask for lines at a prompt? -/
def prompts (o : Options) (terminal : Bool) : Bool :=
  o.expressions.isNone && (terminal || o.prompt.any fun p => !p.isEmpty)

/-- The prompt of a run that asks for lines. -/
def promptText (o : Options) : String :=
  (o.prompt.filter fun p => !p.isEmpty).getD Options.defaultPrompt

/-- The lines that a run with these options works on. -/
def lines (o : Options) (input : Input) : List String :=
  match o.expressions with
  | some given => given
  | none =>
      if prompts o input.terminal then
        streamed ((input.typing.map Typing.lines).getD [])
      else
        streamed (splitLines input.text)

/-- What is left of a prompt that nobody answers.  One that is answered is the terminal's
concern. -/
def unanswered (o : Options) (input : Input) : List String :=
  if prompts o input.terminal && input.typing.isNone then
    input.leftover.lines (promptText o)
  else
    []

/-- Is the run interrupted after its lines? -/
def interrupted (o : Options) (input : Input) : Bool :=
  prompts o input.terminal && input.typing.any Typing.interrupted

/-- What a run with these options does.  It begins with the steps shown or hidden as they
say, and it logs if they are verbose, which is for the process to settle
(`Process.settle`). -/
def perform (clock : Nat → TimeOfDay) (s : Session) (o : Options) (input : Input) : Report :=
  let s' := { s with showSteps := o.steps }
  let report := fun r => Report.ofReply r (unanswered o input) (interrupted o input)
  match o.action with
  | .showGrammar => .printed s' grammarLines
  | .showHelp => .printed s' [Session.helpText]
  | .dumpTokens => report (s'.dump (lines o input))
  | .calculate => report (Session.lines { verbose := o.verbose, clock } s' (lines o input))

/-- What the runs of a process share. -/
structure Process where
  session : Session
  /-- Do the runs log?  The log is configured once, so that nothing is settled until a run
  gets past its arguments, and everything is from then on. -/
  logging : Option Bool

namespace Process

def new : Process where
  session := .new
  logging := none

/-- The options of a run, verbose if the process logs: an earlier run has settled this, or
else the options do. -/
def settle (p : Process) (o : Options) : Options :=
  { o with verbose := p.logging.getD o.verbose }

/-- What a run with these options does in a process. -/
def perform (clock : Nat → TimeOfDay) (p : Process) (o : Options) (input : Input) : Report :=
  CommandLine.perform clock p.session (p.settle o) input

/-- The process after a run with these options.  The log is configured even if a fault ends
the run. -/
def performed (clock : Nat → TimeOfDay) (p : Process) (o : Options) (input : Input) :
    Process where
  session := (p.perform clock o input).session
  logging := some (p.settle o).verbose

/-- A run of the program in a process. -/
def run (clock : Nat → TimeOfDay) (p : Process) (arguments : List String) (input : Input) :
    Report :=
  match Options.parse arguments with
  | .ok o => p.perform clock o input
  | .error .help => .printed p.session [summary]
  | .error (.usage e) =>
      { out := []
        err := e.report
        status := .ok 2
        session := p.session }

/-- The process after a run, which is as it was if the arguments are refused. -/
def after (clock : Nat → TimeOfDay) (p : Process) (arguments : List String) (input : Input) :
    Process :=
  match Options.parse arguments with
  | .ok o => p.performed clock o input
  | .error _ => p

end Process

/-- A run of the program in a session, the first one of its process. -/
def run (clock : Nat → TimeOfDay) (s : Session) (arguments : List String) (input : Input) :
    Report :=
  Process.run clock { session := s, logging := none } arguments input

/-- The text of printed items, each on a line of its own. -/
def printedText (items : List String) : String :=
  String.join (items.map fun item => item ++ "\n")

end CommandLine

end PostfixCalc
