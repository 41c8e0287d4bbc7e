import Std.Time.Zoned
import PostfixCalc.CommandLine.Console

/-!
# The program

The outer layer: it asks for the time and for lines, and carries the answers to
standard output and standard error.  A process makes one run.
-/

namespace PostfixCalc

namespace CommandLine

/-- The local time of day. -/
def now : IO TimeOfDay := do
  let time ← Std.Time.PlainTime.now
  return {
    hour := time.hour.val.toNat
    minute := time.minute.val.toNat
    second := time.second.val.toNat }

/-- Standard output and standard error, by the clock of the system. -/
def terminal : Console IO where
  time := fun _ => now
  deliver := fun out err => do
    (← IO.getStdout).putStr (printedText out)
    (← IO.getStdout).flush
    (← IO.getStderr).putStr (printedText err)

/-- Answer the lines that are read, each after the prompt if there is one, until there
are no more or a fault has ended the work. -/
partial def attend (w : Work) (prompt : Option String) (r : Session.Reply) :
    IO Session.Reply := do
  if r.fault.isSome then
    return r
  if let some p := prompt then
    (← IO.getStdout).putStr p
    (← IO.getStdout).flush
  let piece ← (← IO.getStdin).getLine
  if piece.isEmpty then
    return r
  attend w prompt (← terminal.answerPiece w r piece)

/-- Work on the lines that the options name. -/
def workFor (o : Options) (w : Work) : IO Session.Reply := do
  let r ← terminal.start w { Session.new with showSteps := o.steps }
  match o.expressions with
  | some given => terminal.answer w r given
  | none =>
      let isTerminal := (← (← IO.getStdin).isTty) && (← (← IO.getStdout).isTty)
      attend w (if prompts o isTerminal then some (promptText o) else none) r

/-- Print and report what is left to say, and tell the exit status. -/
def finish (r : Report) : IO UInt32 := do
  terminal.deliver r.out r.err
  match r.status with
  | .ok n => return n.toUInt32
  | .error f =>
      terminal.deliver [] [f.message]
      return 1

/-- Run the program with its arguments. -/
def runProgram (arguments : List String) : IO UInt32 := do
  if let .ok o := Options.parse arguments then
    if let some w := o.work? then
      return ← finish (Report.ofReply (← workFor o w) [] false)
  -- Any other run reads nothing and makes no record.
  let nothing : Input := { text := "", terminal := false, typing := none }
  finish (run (fun _ => .ofSeconds 0) .new arguments nothing)

end CommandLine

end PostfixCalc

def main (arguments : List String) : IO UInt32 :=
  PostfixCalc.CommandLine.runProgram arguments
