/-!
# Switches

A switch has a short name after one hyphen and a long name after two.  It takes
no operand, one at most, or all arguments that are left.
-/

namespace PostfixCalc

namespace CommandLine

/-- The switches of the program. -/
inductive Switch where
  | help
  | verbose
  | steps
  | expression
  | prompt
  | rawGrammar
  | dump
  | helpOperators
  deriving DecidableEq, Repr

/-- How many operands a switch takes. -/
inductive Operands where
  | none
  | atMostOne
  /-- All arguments up to a lone double hyphen, switches or not. -/
  | rest
  deriving DecidableEq, Repr

namespace Switch

/-- All switches, in the order in which they are listed. -/
def all : List Switch :=
  [.help, .verbose, .steps, .expression, .prompt, .rawGrammar, .dump, .helpOperators]

def short : Switch → Char
  | .help => 'h'
  | .verbose => 'v'
  | .steps => 's'
  | .expression => 'e'
  | .prompt => 'p'
  | .rawGrammar => 'G'
  | .dump => 'D'
  | .helpOperators => 'H'

/-- The long name, with its hyphens. -/
def long : Switch → String
  | .help => "--help"
  | .verbose => "--verbose"
  | .steps => "--steps"
  | .expression => "--expression"
  | .prompt => "--prompt"
  | .rawGrammar => "--raw-grammar"
  | .dump => "--dump"
  | .helpOperators => "--help-operators"

/-- Both names, as messages give them. -/
def names (s : Switch) : String :=
  let short := s.short
  s!"-{short}/{s.long}"

def operands : Switch → Operands
  | .expression => .rest
  | .prompt => .atMostOne
  | _ => .none

/-- The switches that a switch must not be used with, in order. -/
def rivals : Switch → List Switch
  | .expression => [.prompt]
  | .prompt => [.expression]
  | .rawGrammar => [.dump, .helpOperators]
  | .dump => [.rawGrammar, .helpOperators]
  | .helpOperators => [.rawGrammar, .dump]
  | _ => []

/-- The switch of a short name. -/
def ofShort? (c : Char) : Option Switch :=
  all.find? fun s => s.short == c

/-- The switches whose long names begin with a text. -/
def abbreviated (text : List Char) : List Switch :=
  all.filter fun s => text.isPrefixOf s.long.toList

end Switch

end CommandLine

end PostfixCalc
