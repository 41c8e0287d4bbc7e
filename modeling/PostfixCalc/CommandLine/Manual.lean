import PostfixCalc.CommandLine.Argument

/-!
# What the program says about itself

The summary of the command line, the report of a refused command line, and the
grammar of tokens as regular expressions.
-/

namespace PostfixCalc

namespace CommandLine

/-- The first line of the summary. -/
def usageLine : String :=
  "usage: rpncalc [-h] [-v] [-s] [-e ... | -p [PROMPT]] [-G | -D | -H]"

/-- The summary of the command line. -/
def summary : String :=
  "\n".intercalate
    [usageLine,
      "",
      "RPN calculator",
      "",
      "options:",
      "  -h, --help            show this help message and exit",
      "  -v, --verbose         log every step",
      "  -s, --steps           show each step",
      "  -e ..., --expression ...",
      "                        expressions to evaluate",
      "  -p [PROMPT], --prompt [PROMPT]",
      "  -G, --raw-grammar",
      "  -D, --dump",
      "  -H, --help-operators"]

/-- The report of a refused command line. -/
def UsageError.report (e : UsageError) : List String :=
  let message := e.message
  [usageLine, s!"rpncalc: error: {message}"]

/-- The numbers as a regular expression with free spacing and comments. -/
def numberGrammar : String :=
  "\n".intercalate
    ["",
      "              [+-]?",
      "              (?:",
      "                   (?:",
      "                       # 1, 12, 1. (notice trailing dot), 1.3",
      "                       [0-9]+",
      "                       (?:",
      "                           \\.",
      "                           (?:[0-9]+)?",
      "                       )?",
      "                   )|(?:",
      "                       # .2 but not a lone .",
      "                       \\.",
      "                       [0-9]+",
      "                   )",
      "                   )",
      "              (?:",
      "                  # 1e3, 1E-3, 2.5e+10",
      "                  [eE]",
      "                  [+-]?",
      "                  [0-9]+",
      "              )?",
      "              "]

/-- The operators as a regular expression. -/
def operatorGrammar : String :=
  "(?:\\+|\\-|\\*|/|\\^|sqrt|sin|cos|tan)"

/-- The grammar of tokens. -/
def grammarLines : List String :=
  ["number:", numberGrammar, "operator:", operatorGrammar]

end CommandLine

end PostfixCalc
