import PostfixCalc.CommandLine.Argument

/-!
# Options

The arguments of a command line are used from left to right and make up the
options of a run.  The first thing that is wrong stops this, and so does the
request for help.
-/

namespace PostfixCalc

namespace CommandLine

/-- What a run does. -/
inductive Action where
  | calculate
  | showGrammar
  | dumpTokens
  | showHelp
  deriving DecidableEq, Repr

/-- The options of a run. -/
structure Options where
  verbose : Bool
  steps : Bool
  /-- The expressions, if they are given as arguments. -/
  expressions : Option (List String)
  /-- The prompt, if one is asked for. -/
  prompt : Option String
  action : Action
  deriving DecidableEq, Repr

namespace Options

/-- The prompt where none is given. -/
def defaultPrompt : String :=
  "> "

/-- The options of an empty command line. -/
def default : Options where
  verbose := false
  steps := false
  expressions := none
  prompt := none
  action := .calculate

end Options

/-- Why there are no options to run with. -/
inductive Stop where
  /-- The summary of the command line is asked for. -/
  | help
  | usage (error : UsageError)
  deriving DecidableEq, Repr

/-- A switch with the operands it is used with. -/
structure Use where
  switch : Switch
  operands : List String
  deriving DecidableEq, Repr

/-- The options so far, the switches used, and the arguments left over. -/
structure Progress where
  options : Options
  used : List Switch
  leftOver : List String
  deriving DecidableEq, Repr

namespace Progress

def start : Progress where
  options := .default
  used := []
  leftOver := []

/-- Set an argument aside. -/
def leave (p : Progress) (text : String) : Progress :=
  { p with leftOver := p.leftOver ++ [text] }

/-- The options after a switch is used. -/
def set (o : Options) (u : Use) : Options :=
  match u.switch with
  | .help => o
  | .verbose => { o with verbose := true }
  | .steps => { o with steps := true }
  | .expression => { o with expressions := some u.operands }
  | .prompt => { o with prompt := some (u.operands.headD Options.defaultPrompt) }
  | .rawGrammar => { o with action := .showGrammar }
  | .dump => { o with action := .dumpTokens }
  | .helpOperators => { o with action := .showHelp }

/-- Use a switch, unless a rival was used before. -/
def use (p : Progress) (u : Use) : Except Stop Progress :=
  match u.switch.rivals.find? fun rival => p.used.contains rival with
  | some rival => .error (.usage (.notAllowedWith u.switch rival))
  | none =>
      if u.switch = .help then
        .error .help
      else
        .ok { p with options := set p.options u, used := u.switch :: p.used }

/-- Use switches in order. -/
def useAll (p : Progress) : List Use → Except Stop Progress
  | [] => .ok p
  | u :: rest => do (← p.use u).useAll rest

end Progress

/-- The switches written together in one argument. -/
structure Cluster where
  uses : List Use
  /-- A last switch whose operands are the arguments that follow. -/
  last : Option Switch
  deriving DecidableEq, Repr

namespace Cluster

/-- Read a switch and the text attached to it.  A switch that takes operands
takes the text, except that a double hyphen is no operand where there can be only
one.  After the short name of any other switch, the text is more short names. -/
def ofAttached (s : Switch) (isLong : Bool) (text : List Char) : Except UsageError Cluster :=
  match s.operands with
  | .rest => .ok { uses := [{ switch := s, operands := [String.ofList text] }], last := none }
  | .atMostOne =>
      let operands := if text = ['-', '-'] then [] else [String.ofList text]
      .ok { uses := [{ switch := s, operands }], last := none }
  | .none =>
      match text with
      | [] => .error (.ignoredValue s text)
      | c :: tail =>
          match if isLong then none else Switch.ofShort? c with
          | none => .error (.ignoredValue s text)
          | some next => do
              let cluster ←
                if tail.isEmpty then
                  .ok { uses := [], last := some next }
                else
                  ofAttached next false tail
              return { cluster with uses := { switch := s, operands := [] } :: cluster.uses }

/-- The switches of an argument. -/
def ofSwitch (s : Switch) (isLong : Bool) : Option (List Char) → Except UsageError Cluster
  | none => .ok { uses := [], last := some s }
  | some text => ofAttached s isLong text

/-- How many of the following arguments are operands of the last switch. -/
def operandCount (c : Cluster) (following : List (String × Argument)) : Nat :=
  match c.last.map Switch.operands with
  | some .rest => (following.takeWhile fun (_, a) => a ≠ .divider).length
  | some .atMostOne => (following.take 1 |>.takeWhile fun (_, a) => a = .operand).length
  | _ => 0

/-- All uses of switches, the last one with the given operands. -/
def usesWith (c : Cluster) (operands : List String) : List Use :=
  c.uses ++ (c.last.map fun s => { switch := s, operands : Use }).toList

end Cluster

/-- Use the arguments from left to right. -/
def progress (p : Progress) (arguments : List (String × Argument)) : Except Stop Progress :=
  match arguments with
  | [] => .ok p
  | (_, .switch s isLong attached) :: rest => do
      let cluster ← (Cluster.ofSwitch s isLong attached).mapError Stop.usage
      let count := cluster.operandCount rest
      let p' ← p.useAll (cluster.usesWith ((rest.take count).map Prod.fst))
      progress p' (rest.drop count)
  | (text, _) :: rest => progress (p.leave text) rest
termination_by arguments.length
decreasing_by
  all_goals
    simp only [List.length_drop, List.length_cons]
    omega

/-- The options of a command line. -/
def Options.parse (texts : List String) : Except Stop Options := do
  let arguments ← (Argument.ofTexts texts).mapError Stop.usage
  let p ← progress .start arguments
  if p.leftOver.isEmpty then
    return p.options
  else
    throw (.usage (.unrecognized p.leftOver))

end CommandLine

end PostfixCalc
