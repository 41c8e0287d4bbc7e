import PostfixCalc.CommandLine.Switch
import PostfixCalc.Text.Digit

/-!
# Arguments

An argument is a switch, with or without a text attached to it, or an operand.
Long names may be shortened as long as one switch only is meant.  Text that
begins with a hyphen is an operand only if it is a lone hyphen, a negative
number, or has a space in it.
-/

namespace PostfixCalc

namespace CommandLine

/-- Why a command line is refused. -/
inductive UsageError where
  /-- A shortened name that fits several switches. -/
  | ambiguous (argument : String) (matching : List Switch)
  /-- A text is attached to a switch that has no use for it. -/
  | ignoredValue (switch : Switch) (value : List Char)
  /-- Two switches that exclude each other. -/
  | notAllowedWith (switch rival : Switch)
  /-- Arguments that belong to no switch. -/
  | unrecognized (arguments : List String)
  deriving DecidableEq, Repr

def UsageError.message : UsageError → String
  | .ambiguous argument matching =>
      let names := ", ".intercalate (matching.map Switch.long)
      s!"ambiguous option: {argument} could match {names}"
  | .ignoredValue switch value =>
      let quoted := String.ofList (Text.quoteChars value)
      s!"argument {switch.names}: ignored explicit argument {quoted}"
  | .notAllowedWith switch rival =>
      s!"argument {switch.names}: not allowed with argument {rival.names}"
  | .unrecognized arguments =>
      let listed := " ".intercalate arguments
      s!"unrecognized arguments: {listed}"

/-- What an argument is. -/
inductive Argument where
  /-- A switch by its long name or by its short one, with the text that is
  attached to it. -/
  | switch (switch : Switch) (isLong : Bool) (attached : Option (List Char))
  /-- Text in the form of a switch that is none. -/
  | unknown
  | operand
  /-- The double hyphen, after which there are operands only. -/
  | divider
  deriving DecidableEq, Repr

namespace Argument

/-- The parts of a text before and after its first equals sign, if any. -/
def splitMark (text : List Char) : List Char × Option (List Char) :=
  match text.dropWhile (· != '=') with
  | [] => (text, none)
  | _ :: value => (text.takeWhile (· != '='), some value)

/-- Is the text, after its hyphen, a number without exponent?  Decimal digits of
all scripts count, and so does a line break at the end. -/
def looksNumeric (text : List Char) : Bool :=
  let isDecimal := fun c => (Text.decimalValue? c).isSome
  let whole := text.takeWhile isDecimal
  match text.dropWhile isDecimal with
  | [] => !whole.isEmpty
  | ['\n'] => !whole.isEmpty
  | '.' :: fraction =>
      let rest := fraction.dropWhile isDecimal
      !(fraction.takeWhile isDecimal).isEmpty && (rest == [] || rest == ['\n'])
  | _ => false

/-- Text that begins with a hyphen and names no switch. -/
def unnamed (body : List Char) : Argument :=
  if looksNumeric body || body.contains ' ' then .operand else .unknown

/-- An argument that begins with two hyphens, by its entire text. -/
def ofLong (text : List Char) : Except UsageError Argument :=
  let (name, attached) := splitMark text
  let exact := Switch.all.find? fun s => s.long.toList == text || s.long.toList == name
  match exact with
  | some s => .ok (.switch s true attached)
  | none =>
      match Switch.abbreviated name with
      | [] => .ok (unnamed (text.drop 1))
      | [s] => .ok (.switch s true attached)
      | matching => .error (.ambiguous (String.ofList text) matching)

/-- An argument with one hyphen, by what follows the hyphen.  An equals sign
right after the short name only marks what is attached. -/
def ofShort (c : Char) (tail : List Char) : Argument :=
  match Switch.ofShort? c with
  | none => unnamed (c :: tail)
  | some s =>
      match tail with
      | [] => .switch s false none
      | '=' :: value => .switch s false (some value)
      | value => .switch s false (some value)

/-- What an argument is that comes before any divider. -/
def ofText (text : String) : Except UsageError Argument :=
  match text.toList with
  | ['-', '-'] => .ok .divider
  | '-' :: '-' :: body => ofLong ('-' :: '-' :: body)
  | '-' :: c :: tail => .ok (ofShort c tail)
  | _ => .ok .operand

/-- The arguments of a command line, each with its text. -/
def ofTexts : List String → Except UsageError (List (String × Argument))
  | [] => .ok []
  | text :: rest => do
      let argument ← ofText text
      match argument with
      | .divider => return (text, .divider) :: rest.map fun t => (t, .operand)
      | _ => return (text, argument) :: (← ofTexts rest)

end Argument

end CommandLine

end PostfixCalc
