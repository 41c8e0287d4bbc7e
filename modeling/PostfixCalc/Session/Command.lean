import PostfixCalc.Text.Blank
import PostfixCalc.Text.Digit

/-!
# Commands

A line that starts with a colon is a command.  Its name is what follows, without
the blanks at its ends.
-/

namespace PostfixCalc

/-- What a line beginning with a colon asks for. -/
inductive Command where
  /-- Show how to use the calculator. -/
  | help
  /-- List the history. -/
  | history
  /-- Forget the history. -/
  | clear
  /-- Turn the showing of steps on or off. -/
  | toggleSteps
  /-- Calculate the record of a number again. -/
  | repeatEntry (number : Nat)
  | unknown (name : String)
  deriving DecidableEq, Repr

namespace Command

/-- The command of a name.  A name of digits only is read as a whole number,
and it is a fault if it spells none. -/
def ofName (name : String) : Except Fault Command :=
  let chars := Text.trimChars name.toList
  match String.ofList chars with
  | "help" => .ok .help
  | "history" => .ok .history
  | "clear" => .ok .clear
  | "steps" => .ok .toggleSteps
  | trimmed =>
      if !chars.isEmpty && chars.all Text.isDigit then
        (Text.readWhole chars).map .repeatEntry
      else
        .ok (.unknown trimmed)

/-- The name of the command in a line, if the line is one. -/
def name? (line : String) : Option String :=
  match line.toList with
  | ':' :: name => some (String.ofList name)
  | _ => none

end Command

end PostfixCalc
